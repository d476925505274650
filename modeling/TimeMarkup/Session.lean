import TimeMarkup.Display

/-!
This module contains runs of requests that share one clock. Some move the clock, through one of its
handles, and others ask for what depends on the current time.
-/

namespace TimeMarkup

/-- The ways to reach the clock of a session. All of them lead to the same one. -/
inductive Handle where
  | owner
  | asker
deriving DecidableEq

inductive Question where
  | remaining (expiry : Option Timestamp)
  | tokenWithDistance (primary reference : Option Timestamp) (precision : String) (maxUnits : Int)
  | tokenWithShortDistance (primary reference : Option Timestamp)
  | spanTo (t : Timestamp) (reference : Option Timestamp)
  | elapsed (s : Span)

inductive Reply where
  | done
  | text (s : Option String)
  | span (s : Span)
  | elapsed (e : Elapsed)
deriving DecidableEq

inductive Request where
  | move (via : Handle) (step : Clock.Step)
  | ask (question : Question)

namespace Clock

def answer (c : Clock) : Question → Except Error Reply
  | .remaining expiry => (c.remaining expiry).map fun s => .text (some s)
  | .tokenWithDistance primary reference precision maxUnits =>
    (c.tokenWithDistance primary reference precision maxUnits).map .text
  | .tokenWithShortDistance primary reference =>
    (c.tokenWithShortDistance primary reference).map .text
  | .spanTo t reference => (c.spanTo t reference).map .span
  | .elapsed s => (c.elapsedFromNow s).map .elapsed

end Clock

structure Session where
  shared : Clock
deriving DecidableEq

namespace Session

def clock (s : Session) : Handle → Clock
  | .owner => s.shared
  | .asker => s.shared

/-- The session after a request, and the reply to it. Only a move changes the clock. -/
def handle (s : Session) : Request → Session × Except Error Reply
  | .move via step => (⟨(s.clock via).step step⟩, .ok .done)
  | .ask question => (s, (s.clock .asker).answer question)

def run (s : Session) : List Request → Session × List (Except Error Reply)
  | [] => (s, [])
  | r :: rs =>
    let (s, reply) := s.handle r
    let (s, replies) := s.run rs
    (s, reply :: replies)

end Session

end TimeMarkup
