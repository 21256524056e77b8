/-
  SlotIR.Proofs.Target.Names
  ──────────────────────────
  **NAMES IN THE EMITTED TEXT ARE TOLD APART.**

  Temporaries, slots and labels are compared as texts, since it is texts
  that the output consists of.  Each text shows the number in it:

    • `tempText_inj`          %tN
    • `Label.number_eq`       tag.N
    • `Slot.number_eq`        %local_x.pos.P.N
    • `Slot.plain_ne`         a slot without a number has no text of a
                              slot with one, whatever the variables are
                              called, since a position has no dot in it
-/
import SlotIR.Target.Printer
import SlotIR.Proofs.Program.Typed

namespace SlotIR

/-! ## §1. Decimals. -/

theorem repr_inj {m n : Nat} (h : m.repr = n.repr) : m = n := by
  have digits : Nat.toDigits 10 m = Nat.toDigits 10 n := by
    rw [← Nat.toList_repr, ← Nat.toList_repr, h]
  rw [← @Nat.ofDigitChars_toDigits 10 m (by omega) (by omega), digits,
    Nat.ofDigitChars_toDigits (by omega) (by omega)]

/-- The numeral of a number has only digits in it. -/
theorem isDigit_of_mem_repr {n : Nat} {c : Char} (h : c ∈ n.repr.toList) : c.isDigit = true := by
  rw [Nat.toList_repr] at h
  exact Nat.isDigit_of_mem_toDigits (by omega) (by omega) h

theorem dot_notMem_repr (n : Nat) : '.' ∉ n.repr.toList := by
  intro member
  have digit := isDigit_of_mem_repr member
  revert digit
  decide

/-- A character of a decimal is a digit or the sign. -/
theorem mem_decimal {p : Int} {c : Char} (h : c ∈ (Text.decimal p).toList) :
    c.isDigit = true ∨ c = '-' := by
  cases p with
  | ofNat n => exact .inl (isDigit_of_mem_repr h)
  | negSucc n =>
    simp only [Text.decimal, String.toList_append, List.mem_append] at h
    rcases h with sign | digit
    · right
      simpa using sign
    · exact .inl (isDigit_of_mem_repr digit)

theorem dot_notMem_decimal (p : Int) : '.' ∉ (Text.decimal p).toList := by
  intro member
  rcases mem_decimal member with digit | sign
  · revert digit
    decide
  · revert sign
    decide

/-! ## §2. The part after the last dot. -/

/-- A list is cut in one way at its last occurrence of a value. -/
theorem append_cons_inj {α : Type} {a a' b b' : List α} {x : α} (out : x ∉ b) (out' : x ∉ b')
    (h : a ++ x :: b = a' ++ x :: b') : a = a' ∧ b = b' := by
  rcases List.append_eq_append_iff.1 h with ⟨c, rfl, rest⟩ | ⟨c, rfl, rest⟩
  · cases c with
    | nil => simpa using rest
    | cons y c =>
      -- otherwise the second cut lies inside the part after the first
      simp only [List.cons_append, List.cons.injEq] at rest
      rw [rest.2] at out
      simp at out
  · cases c with
    | nil => simpa [eq_comm] using rest
    | cons y c =>
      simp only [List.cons_append, List.cons.injEq] at rest
      rw [rest.2] at out'
      simp at out'

/-- Texts that are equal agree before and after their last dots. -/
theorem lastDot_inj {a a' b b' : String} (out : '.' ∉ b.toList) (out' : '.' ∉ b'.toList)
    (h : a ++ "." ++ b = a' ++ "." ++ b') : a = a' ∧ b = b' := by
  have lists := congrArg String.toList h
  simp only [String.toList_append, List.append_assoc] at lists
  obtain ⟨before, after⟩ := append_cons_inj out out' (show _ ++ '.' :: _ = _ ++ '.' :: _ from lists)
  exact ⟨String.toList_inj.1 before, String.toList_inj.1 after⟩

/-! ## §3. Temporaries and labels. -/

theorem tempText_inj {m n : Nat} (h : tempText m = tempText n) : m = n := by
  have lists := congrArg String.toList h
  simp only [tempText, String.toList_append, List.append_cancel_left_eq] at lists
  exact repr_inj (String.toList_inj.1 lists)

/-- The text of a label shows its number. -/
theorem Label.number_eq {l m : Label} (h : l.text = m.text) : l.number = m.number :=
  repr_inj (lastDot_inj (dot_notMem_repr _) (dot_notMem_repr _) h).2

/-! ## §4. Slots. -/

/-- The text of a slot up to the position. -/
theorem Slot.text_plain (name : String) (pos : Pos) :
    Slot.text ⟨name, pos, none⟩ = "%local_" ++ name ++ ".pos" ++ "." ++ pos.text := by
  have dotted : ".pos." = ".pos" ++ "." := rfl
  simp only [Slot.text, dotted, String.append_assoc, String.append_empty]

theorem Slot.text_numbered (name : String) (pos : Pos) (n : Nat) :
    Slot.text ⟨name, pos, some n⟩ = Slot.text ⟨name, pos, none⟩ ++ "." ++ n.repr := by
  simp [Slot.text, String.append_assoc]

/-- Numbered slots of one text have one number. -/
theorem Slot.number_eq {name name' : String} {pos pos' : Pos} {m n : Nat}
    (h : Slot.text ⟨name, pos, some m⟩ = Slot.text ⟨name', pos', some n⟩) : m = n := by
  rw [Slot.text_numbered, Slot.text_numbered] at h
  exact repr_inj (lastDot_inj (dot_notMem_repr _) (dot_notMem_repr _) h).2

theorem decimal_ne_pos (p : Int) : Text.decimal p ≠ "pos" := by
  intro h
  have member : 'p' ∈ (Text.decimal p).toList := by rw [h]; decide
  rcases mem_decimal member with digit | sign
  · revert digit
    decide
  · revert sign
    decide

/-- No numbered slot has the text of a slot without a number. -/
theorem Slot.plain_ne {name name' : String} {pos pos' : Pos} {n : Nat}
    (offset : pos.isOffset = true) (offset' : pos'.isOffset = true) :
    Slot.text ⟨name, pos, none⟩ ≠ Slot.text ⟨name', pos', some n⟩ := by
  obtain ⟨p, rfl⟩ := Pos.exists_offset offset
  obtain ⟨p', rfl⟩ := Pos.exists_offset offset'
  intro h
  rw [Slot.text_numbered, Slot.text_plain, Slot.text_plain] at h
  -- before the last dot, one text goes on with ".pos" and the other with a position
  obtain ⟨before, -⟩ := lastDot_inj (dot_notMem_decimal p) (dot_notMem_repr n) h
  have dotted : "%local_" ++ name ++ ".pos" = "%local_" ++ name ++ "." ++ "pos" := by
    simp [String.append_assoc]
  rw [dotted] at before
  obtain ⟨-, last⟩ := lastDot_inj (by decide) (dot_notMem_decimal p') before
  exact decimal_ne_pos p' last.symm

end SlotIR
