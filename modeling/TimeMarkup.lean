import TimeMarkup.Config
import TimeMarkup.Notices
import TimeMarkup.Proofs.Display.Distance
import TimeMarkup.Proofs.Display.Remaining
import TimeMarkup.Proofs.Display.Tokens
import TimeMarkup.Proofs.Span.Reachable
import TimeMarkup.Proofs.Span.Reading
import TimeMarkup.Proofs.Span.RoundTrip
import TimeMarkup.Proofs.Timestamp.RoundTrip
import TimeMarkup.Span.Wire
import TimeMarkup.Timestamp.Civil
import TimeMarkup.Proofs.Span.Recovery
import TimeMarkup.Proofs.Session.Movement
import TimeMarkup.Proofs.Session.Expiry
import TimeMarkup.Proofs.Span.ReadBack
import TimeMarkup.Proofs.Span.Landing
import TimeMarkup.Proofs.Span.Order
import TimeMarkup.Proofs.Span.Reversal
import TimeMarkup.Proofs.Span.Saturation
import TimeMarkup.Proofs.Span.Conservation
import TimeMarkup.Proofs.Span.Negation
import TimeMarkup.Proofs.Span.Setting
import TimeMarkup.Proofs.Span.Phrases
import TimeMarkup.Proofs.Span.Search
import TimeMarkup.Proofs.Binary64.Truncation
import TimeMarkup.Proofs.Timestamp.Encoding
import TimeMarkup.Proofs.Span.Exchange
import TimeMarkup.Proofs.Instant.Spacing
