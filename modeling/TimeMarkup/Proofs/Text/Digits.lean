import Mathlib.Algebra.Group.Nat.Defs
import TimeMarkup.Text.Decimal

/-!
This module contains the numbers that are written in digits. The main statements say that
`readNumber?` takes exactly a number with a fixed count of digits off the front of a text, that
`padded` writes one, and that two integers never have the same decimal text.
-/

namespace TimeMarkup

def decimalValue : List Char → Nat
  | [] => 0
  | c :: cs => 10 ^ cs.length * (c.toNat - 48) + decimalValue cs

structure IsNumber (width n : Nat) (cs : List Char) : Prop where
  length_eq : cs.length = width
  isDigit : ∀ c ∈ cs, c.isDigit
  value_eq : decimalValue cs = n

theorem takeWhile_append_stop {p : Char → Bool} {as bs : List Char} (has : ∀ a ∈ as, p a)
    (hbs : ∀ b ∈ bs.head?, p b = false) :
    (as ++ bs).takeWhile p = as ∧ (as ++ bs).dropWhile p = bs := by
  rw [List.takeWhile_append_of_pos has]
  rw [List.dropWhile_append_of_pos has]
  cases bs with
  | nil => simp
  | cons b bs => simp [hbs b rfl]

theorem append_inj_of_stop {p : Char → Bool} {as bs as' bs' : List Char} (has : ∀ a ∈ as, p a)
    (has' : ∀ a ∈ as', p a) (hbs : ∀ b ∈ bs.head?, p b = false) (hbs' : ∀ b ∈ bs'.head?, p b = false)
    (h : as ++ bs = as' ++ bs') : as = as' ∧ bs = bs' := by
  obtain ⟨htake, hdrop⟩ := takeWhile_append_stop has hbs
  obtain ⟨htake', hdrop'⟩ := takeWhile_append_stop has' hbs'
  constructor
  · rw [← htake, ← htake', h]
  · rw [← hdrop, ← hdrop', h]

theorem ofDigits_eq_decimalValue (cs : List Char) : ofDigits cs = decimalValue cs := by
  induction cs with
  | nil => rfl
  | cons c cs ih =>
    rw [decimalValue, ← ih]
    unfold ofDigits
    rw [Nat.ofDigitChars_cons, Nat.ofDigitChars_eq_ofDigitChars_zero]
    simp

theorem decimalValue_append (as bs : List Char) :
    decimalValue (as ++ bs) = 10 ^ bs.length * decimalValue as + decimalValue bs := by
  simp only [← ofDigits_eq_decimalValue]
  unfold ofDigits
  rw [Nat.ofDigitChars_append, Nat.ofDigitChars_eq_ofDigitChars_zero]

theorem decimalValue_digits (n : Nat) : decimalValue (digits n) = n := by
  rw [← ofDigits_eq_decimalValue]
  exact ofDigits_digits n

theorem toNat_of_isDigit {c : Char} (h : c.isDigit) : 48 ≤ c.toNat ∧ c.toNat ≤ 57 := by
  simp only [Char.isDigit, Bool.and_eq_true, decide_eq_true_eq] at h
  exact h

theorem decimalValue_lt {cs : List Char} (h : ∀ c ∈ cs, c.isDigit) : decimalValue cs < 10 ^ cs.length := by
  induction cs with
  | nil => decide
  | cons c cs ih =>
    have hc := toNat_of_isDigit (h c (by simp))
    have hcs := ih (fun d hd => h d (by simp [hd]))
    have hmul : 10 ^ cs.length * (c.toNat - 48) ≤ 10 ^ cs.length * 9 :=
      Nat.mul_le_mul_left _ (by omega)
    rw [decimalValue, List.length_cons, Nat.pow_succ]
    omega

theorem decimalValue_eq_zero_iff {cs : List Char} (h : ∀ c ∈ cs, c.isDigit) :
    decimalValue cs = 0 ↔ ∀ c ∈ cs, c = '0' := by
  induction cs with
  | nil => simp [decimalValue]
  | cons c cs ih =>
    have hc := toNat_of_isDigit (h c (by simp))
    have hzero : c.toNat - 48 = 0 ↔ c = '0' := by
      rw [← Char.toNat_inj]
      simp
      omega
    have hpow : 10 ^ cs.length ≠ 0 := Nat.ne_of_gt (Nat.pow_pos (by omega))
    rw [decimalValue, List.forall_mem_cons, ← ih (fun d hd => h d (by simp [hd])), ← hzero]
    rw [Nat.add_eq_zero_iff, Nat.mul_eq_zero, or_iff_right hpow]

theorem decimalValue_replicate_zero (n : Nat) : decimalValue (List.replicate n '0') = 0 := by
  rw [decimalValue_eq_zero_iff]
  · simp
  · intro c hc
    rw [List.eq_of_mem_replicate hc]
    decide

theorem decimalValue_replicate_zero_append (n : Nat) (cs : List Char) :
    decimalValue (List.replicate n '0' ++ cs) = decimalValue cs := by
  rw [decimalValue_append, decimalValue_replicate_zero]
  omega

namespace IsNumber

variable {width n : Nat} {cs : List Char}

theorem lt (h : IsNumber width n cs) : n < 10 ^ width := by
  have := decimalValue_lt h.isDigit
  rw [h.length_eq, h.value_eq] at this
  exact this

theorem append {width' n' : Nat} {cs' : List Char} (h : IsNumber width n cs)
    (h' : IsNumber width' n' cs') :
    IsNumber (width + width') (10 ^ width' * n + n') (cs ++ cs') := by
  constructor
  · rw [List.length_append, h.length_eq, h'.length_eq]
  · intro c hc
    cases List.mem_append.mp hc with
    | inl hc => exact h.isDigit c hc
    | inr hc => exact h'.isDigit c hc
  · rw [decimalValue_append, h.value_eq, h'.value_eq, h'.length_eq]

theorem exists_append (width width' : Nat) (h : IsNumber (width + width') n cs) :
    ∃ as bs, cs = as ++ bs
      ∧ IsNumber width (n / 10 ^ width') as ∧ IsNumber width' (n % 10 ^ width') bs := by
  have htake : (cs.take width).length = width := by
    rw [List.length_take, h.length_eq]
    omega
  have hdrop : (cs.drop width).length = width' := by
    rw [List.length_drop, h.length_eq]
    omega
  have hdigit : ∀ c ∈ cs.drop width, c.isDigit := fun c hc => h.isDigit c (List.mem_of_mem_drop hc)
  have hlt := decimalValue_lt hdigit
  have hn := decimalValue_append (cs.take width) (cs.drop width)
  rw [List.take_append_drop, h.value_eq, hdrop] at hn
  rw [hdrop] at hlt
  refine ⟨cs.take width, cs.drop width, (List.take_append_drop ..).symm, ?_, ?_⟩
  · refine ⟨htake, fun c hc => h.isDigit c (List.mem_of_mem_take hc), ?_⟩
    rw [hn, Nat.mul_add_div (Nat.pow_pos (by omega)), Nat.div_eq_of_lt hlt, Nat.add_zero]
  · refine ⟨hdrop, hdigit, ?_⟩
    rw [hn, Nat.mul_add_mod, Nat.mod_eq_of_lt hlt]

theorem append_ne_cons {rest cs' : List Char} {c : Char} (h : IsNumber (width + 1) n cs)
    (hc : c.isDigit = false) : cs ++ rest ≠ c :: cs' := by
  cases cs with
  | nil => cases h.length_eq
  | cons d ds =>
    intro heq
    have hd := h.isDigit d (by simp)
    rw [List.cons_append, List.cons.injEq] at heq
    rw [heq.1, hc] at hd
    cases hd

end IsNumber

theorem readNumber?_eq_some_iff {width n : Nat} {cs rest : List Char} :
    readNumber? width cs = some (n, rest) ↔ ∃ ds, cs = ds ++ rest ∧ IsNumber width n ds := by
  unfold readNumber?
  constructor
  · intro h
    simp only [Option.ite_none_right_eq_some, Option.some.injEq, Prod.mk.injEq] at h
    obtain ⟨⟨hlength, hdigit⟩, rfl, rfl⟩ := h
    refine ⟨cs.take width, (List.take_append_drop ..).symm, hlength, ?_, ?_⟩
    · simpa using hdigit
    · exact (ofDigits_eq_decimalValue _).symm
  · rintro ⟨ds, rfl, hds⟩
    have htake : (ds ++ rest).take width = ds := by
      rw [← hds.length_eq, List.take_left]
    have hdrop : (ds ++ rest).drop width = rest := by
      rw [← hds.length_eq, List.drop_left]
    have hall : ds.all Char.isDigit := by
      simpa using hds.isDigit
    rw [htake, hdrop]
    simp [hds.length_eq, ofDigits_eq_decimalValue, hds.value_eq, hall]

theorem readNumber?_append {width n : Nat} {ds : List Char} (h : IsNumber width n ds)
    (rest : List Char) : readNumber? width (ds ++ rest) = some (n, rest) :=
  readNumber?_eq_some_iff.mpr ⟨ds, rfl, h⟩

theorem readNumber?_eq_some {width n : Nat} {ds : List Char} (h : IsNumber width n ds) :
    readNumber? width ds = some (n, []) :=
  readNumber?_eq_some_iff.mpr ⟨ds, (List.append_nil ds).symm, h⟩

theorem readNumber?_bind_eq_some_iff {β : Type} {width : Nat} {cs : List Char}
    {f : Nat × List Char → Option β} {b : β} :
    (readNumber? width cs).bind f = some b
      ↔ ∃ n ds rest, cs = ds ++ rest ∧ IsNumber width n ds ∧ f (n, rest) = some b := by
  rw [Option.bind_eq_some_iff]
  constructor
  · rintro ⟨⟨n, rest⟩, hread, hf⟩
    obtain ⟨ds, hcs, hds⟩ := readNumber?_eq_some_iff.mp hread
    exact ⟨n, ds, rest, hcs, hds, hf⟩
  · rintro ⟨n, ds, rest, hcs, hds, hf⟩
    exact ⟨(n, rest), readNumber?_eq_some_iff.mpr ⟨ds, hcs, hds⟩, hf⟩

theorem isNumber_padded {width n : Nat} (hwidth : 0 < width) (h : n < 10 ^ width) :
    IsNumber width n (padded width n).toList := by
  have hlength : (digits n).length ≤ width := (Nat.length_toDigits_le_iff (by omega) hwidth).mpr h
  unfold padded
  rw [String.toList_ofList]
  constructor
  · rw [List.length_append, List.length_replicate]
    omega
  · intro c hc
    cases List.mem_append.mp hc with
    | inl hc =>
      rw [List.eq_of_mem_replicate hc]
      decide
    | inr hc => exact isDigit_of_mem_digits hc
  · rw [decimalValue_replicate_zero_append, decimalValue_digits]

theorem readNumber?_eq_none {width : Nat} {cs : List Char} (h : ∀ c ∈ cs.head?, c.isDigit = false) :
    readNumber? (width + 1) cs = none := by
  cases cs with
  | nil => simp [readNumber?]
  | cons c cs => simp [readNumber?, h c (by simp)]

theorem decimal_toList (n : Int) :
    (decimal n).toList = if n < 0 then '-' :: digits n.natAbs else digits n.natAbs := by
  unfold decimal
  split <;> simp

theorem isDigit_or_of_mem_decimal {n : Int} {c : Char} (h : c ∈ (decimal n).toList) :
    c.isDigit ∨ c = '-' := by
  rw [decimal_toList] at h
  split at h
  · cases h with
    | head => exact .inr rfl
    | tail _ h => exact .inl (isDigit_of_mem_digits h)
  · exact .inl (isDigit_of_mem_digits h)

theorem digits_ne_minus_cons (m n : Nat) : digits m ≠ '-' :: digits n := by
  intro h
  have hminus := isDigit_of_mem_digits (n := m) (c := '-') (by simp [h])
  contradiction

theorem decimal_inj {m n : Int} (h : decimal m = decimal n) : m = n := by
  have h := congrArg String.toList h
  rw [decimal_toList, decimal_toList] at h
  have hdigits {a b : Nat} (h : digits a = digits b) : a = b := by
    rw [← decimalValue_digits a, h, decimalValue_digits]
  split at h <;> split at h
  · have := hdigits (List.cons.inj h).2
    omega
  · exact absurd h.symm (digits_ne_minus_cons _ _)
  · exact absurd h (digits_ne_minus_cons _ _)
  · have := hdigits h
    omega

theorem decimal_append_inj {m n : Int} {cs cs' : List Char}
    (hcs : ∀ c ∈ cs.head?, c.isDigit = false ∧ c ≠ '-')
    (hcs' : ∀ c ∈ cs'.head?, c.isDigit = false ∧ c ≠ '-')
    (h : (decimal m).toList ++ cs = (decimal n).toList ++ cs') : m = n ∧ cs = cs' := by
  have hinside : ∀ k : Int, ∀ c ∈ (decimal k).toList, (c.isDigit || c == '-') = true := by
    intro k c hc
    simpa using isDigit_or_of_mem_decimal hc
  obtain ⟨hdecimal, hrest⟩ := append_inj_of_stop (p := fun c => c.isDigit || c == '-')
    (hinside m) (hinside n) (by simpa using hcs) (by simpa using hcs') h
  exact ⟨decimal_inj (String.toList_inj.mp hdecimal), hrest⟩

/--
The characters `cs` write the integer `n` in the one way without anything needless: the only sign is
the minus of a negative number, and the only number that begins with a zero is zero itself.
-/
def IsDecimal (n : Int) (cs : List Char) : Prop :=
  ∃ ds, IsNumber ds.length n.natAbs ds ∧ ds ≠ [] ∧ (ds.head? = some '0' → ds = ['0'])
    ∧ cs = if n < 0 then '-' :: ds else ds

theorem isNumber_digits (n : Nat) : IsNumber (digits n).length n (digits n) where
  length_eq := rfl
  isDigit := fun _ hc => isDigit_of_mem_digits hc
  value_eq := decimalValue_digits n

-- A zero in front would leave a number that needs fewer digits.
theorem digits_eq_zero_of_head {n : Nat} (h : (digits n).head? = some '0') : digits n = ['0'] := by
  obtain ⟨cs, hcs⟩ := List.head?_eq_some_iff.mp h
  have hnumber := isNumber_digits n
  have hrest : ∀ c ∈ cs, c.isDigit := by
    intro c hc
    apply hnumber.isDigit
    rw [hcs]
    exact List.mem_cons_of_mem _ hc
  have hvalue := hnumber.value_eq
  rw [hcs, decimalValue] at hvalue
  have hlt := decimalValue_lt hrest
  cases cs with
  | nil => exact hcs
  | cons c cs =>
    have hshort : (digits n).length ≤ (c :: cs).length := by
      apply (Nat.length_toDigits_le_iff (by decide) (by simp)).mpr
      rw [← hvalue]
      simpa using hlt
    rw [hcs, List.length_cons] at hshort
    omega

theorem isDecimal_decimal (n : Int) : IsDecimal n (decimal n).toList := by
  refine ⟨digits n.natAbs, isNumber_digits n.natAbs, ?_, digits_eq_zero_of_head, ?_⟩
  · exact Nat.toDigits_ne_nil
  · exact decimal_toList n

end TimeMarkup
