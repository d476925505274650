import TimeMarkup.Proofs.Text.Digits
import TimeMarkup.Text.Quoted

/-!
This module contains what quoted text tells about the text between the quotes. The main statements
say that printable ASCII stands there as it is, and that no two texts are quoted alike.
-/

namespace TimeMarkup

/-- A printable ASCII character other than the quote and the backslash. -/
def IsPlain (c : Char) : Prop :=
  (32 ≤ c.toNat ∧ c.toNat ≤ 126) ∧ c ≠ '\x22' ∧ c ≠ '\\'

instance (c : Char) : Decidable (IsPlain c) :=
  inferInstanceAs (Decidable (_ ∧ _))

theorem inRanges_eq_false {ranges : List (Nat × Nat)} {c : Char} (h : IsPlain c)
    (hranges : ranges.all fun r => r.2 < 32 || 126 < r.1) : inRanges ranges c = false := by
  obtain ⟨⟨hlow, hhigh⟩, -⟩ := h
  unfold inRanges
  rw [List.any_eq_false]
  intro r hr
  have hr := List.all_eq_true.mp hranges r hr
  simp only [Bool.or_eq_true, decide_eq_true_eq] at hr
  simp only [Bool.and_eq_true, decide_eq_true_eq]
  omega

theorem isVisible_of_isPlain {c : Char} (h : IsPlain c) : isVisible c = true := by
  have hfiller : c ∉ fillers := by
    intro hmem
    have hlarge : fillers.all fun d => 126 < d.toNat := by decide
    have := List.all_eq_true.mp hlarge c hmem
    have := h.1.2
    simp only [decide_eq_true_eq] at *
    omega
  unfold isVisible
  rw [inRanges_eq_false h (by decide +kernel)]
  rw [inRanges_eq_false h (by decide +kernel)]
  simpa using hfiller

theorem escapeChar_of_isPlain {c : Char} (h : IsPlain c) : escapeChar c = [c] := by
  have hcontrol {d : Char} (hd : d.toNat < 32) : c ≠ d := by
    rintro rfl
    exact Nat.not_le.mpr hd h.1.1
  unfold escapeChar
  rw [if_neg (not_or.mpr h.2)]
  rw [if_neg (hcontrol (by decide)), if_neg (hcontrol (by decide))]
  rw [if_neg (hcontrol (by decide)), if_neg (hcontrol (by decide))]
  rw [if_pos (isVisible_of_isPlain h)]

theorem quoted_of_isPlain {s : String} (h : ∀ c ∈ s.toList, IsPlain c) :
    quoted s = "\x22" ++ s ++ "\x22" := by
  have hsame : s.toList.flatMap escapeChar = s.toList := by
    rw [List.flatMap_def]
    rw [List.map_congr_left fun c hc => escapeChar_of_isPlain (h c hc)]
    rw [← List.flatMap_def]
    apply List.flatMap_singleton'
  rw [← String.toList_inj]
  unfold quoted
  rw [hsame]
  simp

def escaped (c : Char) : Char :=
  if c = 'n' then '\n'
  else if c = 'r' then '\r'
  else if c = 't' then '\t'
  else if c = '0' then '\x00'
  else c

-- The letter after a backslash tells the character, but for the `u` in front of a code in braces.
theorem escapeChar_forms (c : Char) :
    (c ≠ '\\' ∧ escapeChar c = [c])
      ∨ (∃ d, d ≠ 'u' ∧ escaped d = c ∧ escapeChar c = ['\\', d])
      ∨ escapeChar c = '\\' :: 'u' :: '\x7b' :: (Nat.toDigits 16 c.toNat ++ ['\x7d']) := by
  unfold escapeChar
  split
  · next hquote =>
    right
    left
    refine ⟨c, ?_, ?_, rfl⟩
    · rcases hquote with rfl | rfl <;> decide
    · rcases hquote with rfl | rfl <;> decide
  · next hquote =>
    split
    · next hc => exact .inr (.inl ⟨'n', by decide, hc.symm, rfl⟩)
    split
    · next hc => exact .inr (.inl ⟨'r', by decide, hc.symm, rfl⟩)
    split
    · next hc => exact .inr (.inl ⟨'t', by decide, hc.symm, rfl⟩)
    split
    · next hc => exact .inr (.inl ⟨'0', by decide, hc.symm, rfl⟩)
    split
    · rw [not_or] at hquote
      exact .inl ⟨hquote.2, rfl⟩
    · exact .inr (.inr rfl)

theorem escapeChar_ne_nil (c : Char) : escapeChar c ≠ [] := by
  rcases escapeChar_forms c with ⟨_, h⟩ | ⟨d, _, _, h⟩ | h <;> simp [h]

theorem toDigits_sixteen_inj {m n : Nat} (h : Nat.toDigits 16 m = Nat.toDigits 16 n) : m = n := by
  have hdigit : ∀ a : Fin 16, ∀ b : Fin 16, Nat.digitChar a = Nat.digitChar b → a = b := by decide
  induction m using Nat.strongRecOn generalizing n with
  | ind m ih =>
    rw [Nat.toDigits_eq_if (by decide), Nat.toDigits_eq_if (n := n) (by decide)] at h
    split at h <;> split at h
    · next hm hn => exact congrArg Fin.val (hdigit ⟨m, hm⟩ ⟨n, hn⟩ (List.cons.inj h).1)
    · rw [List.singleton_eq_append_iff] at h
      simp [Nat.toDigits_ne_nil] at h
    · rw [List.append_eq_singleton_iff] at h
      simp [Nat.toDigits_ne_nil] at h
    · obtain ⟨hquotient, hrest⟩ := List.append_inj' h rfl
      have hdiv := ih (m / 16) (by omega) hquotient
      have hmod := hdigit ⟨m % 16, Nat.mod_lt _ (by decide)⟩ ⟨n % 16, Nat.mod_lt _ (by decide)⟩
        (List.cons.inj hrest).1
      rw [Fin.mk.injEq] at hmod
      omega

theorem ne_brace_of_mem_toDigits {n : Nat} {c : Char} (h : c ∈ Nat.toDigits 16 n) :
    c ≠ '\x7d' := by
  induction n using Nat.strongRecOn with
  | ind n ih =>
    rw [Nat.toDigits_eq_if (by decide)] at h
    split at h
    · rw [List.mem_singleton.mp h]
      exact Nat.digitChar_ne '\x7d' rfl
    · rcases List.mem_append.mp h with h | h
      · exact ih (n / 16) (by omega) h
      · rw [List.mem_singleton.mp h]
        exact Nat.digitChar_ne '\x7d' rfl

theorem escapeChar_append_inj {c d : Char} {cs ds : List Char}
    (h : escapeChar c ++ cs = escapeChar d ++ ds) : c = d ∧ cs = ds := by
  rcases escapeChar_forms c with ⟨hc, hform⟩ | ⟨c', hc, rfl, hform⟩ | hform <;>
  rcases escapeChar_forms d with ⟨hd, hform'⟩ | ⟨d', hd, rfl, hform'⟩ | hform' <;>
  rw [hform, hform'] at h
  · simpa using h
  · exact absurd (List.cons.inj h).1 hc
  · exact absurd (List.cons.inj h).1 hc
  · exact absurd (List.cons.inj h).1.symm hd
  · simp only [List.cons_append, List.nil_append, List.cons.injEq, true_and] at h
    exact ⟨congrArg escaped h.1, h.2⟩
  · exact absurd (List.cons.inj (List.cons.inj h).2).1 hc
  · exact absurd (List.cons.inj h).1.symm hd
  · exact absurd (List.cons.inj (List.cons.inj h).2).1.symm hd
  · simp only [List.cons_append, List.append_assoc, List.cons.injEq, true_and] at h
    obtain ⟨hdigits, hrest⟩ := append_inj_of_stop (p := fun c => c ≠ '\x7d')
      (by simpa using fun _ => ne_brace_of_mem_toDigits)
      (by simpa using fun _ => ne_brace_of_mem_toDigits) (by simp) (by simp) h
    exact ⟨Char.toNat_inj.mp (toDigits_sixteen_inj hdigits), (List.cons.inj hrest).2⟩

theorem flatMap_escapeChar_inj {cs ds : List Char}
    (h : cs.flatMap escapeChar = ds.flatMap escapeChar) : cs = ds := by
  induction cs generalizing ds with
  | nil =>
    cases ds with
    | nil => rfl
    | cons d ds => simp [escapeChar_ne_nil] at h
  | cons c cs ih =>
    cases ds with
    | nil => simp [escapeChar_ne_nil] at h
    | cons d ds =>
      obtain ⟨rfl, hrest⟩ := escapeChar_append_inj h
      rw [ih hrest]

theorem quoted_inj {s t : String} (h : quoted s = quoted t) : s = t := by
  have hlist := String.ofList_inj.mp h
  have hinside := List.append_cancel_right (List.cons.inj hlist).2
  exact String.toList_inj.mp (flatMap_escapeChar_inj hinside)

end TimeMarkup
