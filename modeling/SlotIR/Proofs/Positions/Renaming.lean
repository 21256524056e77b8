/-
  SlotIR.Proofs.Positions.Renaming
  ────────────────────────────────
  **LINES THAT DIFFER IN NAMES ONLY.**

  The text of a line is a row of TOKENS: names with a percent sign, and
  what stands between them.  A label is such a name as well, but on its own
  line it is written without the percent sign.  To rename is to put other
  names in the place of those tokens (`Line.textWith`).

  Two bodies are ALIKE by a relation of names if their tokens are the same
  up to related names (`Line.Alike`).  If the relation is one to one, there
  is a bijection between the names that they mention which turns the text
  of each line of the one into that of the other (`sameUpToNames`).
-/
import Mathlib.Data.Set.Function
import SlotIR.Proofs.Scope.Related
import SlotIR.Target.Printer

namespace SlotIR

/-! ## §1. Tokens. -/

/-- A part of a line's text. -/
inductive Token where
  | plain (text : String)
  /-- A name with its percent sign. -/
  | name (text : String)
  /-- A label, written without its percent sign. -/
  | label (text : String)
  deriving DecidableEq, Repr

/-- The name that a token shows, with its percent sign. -/
def Token.name? : Token → Option String
  | .plain _ => none
  | .name text => some text
  | .label text => some ("%" ++ text)

/-- The text of a token with its name replaced. -/
def Token.textWith (f : String → String) : Token → String
  | .plain text => text
  | .name text => f text
  | .label text => String.ofList ((f ("%" ++ text)).toList.drop 1)

/-- The token of a storage place. -/
def Storage.token : Storage → Token
  | .slot s => .name s.text
  | .symbol text => .plain text
  | .given value => .plain value.written

/-- The token of an operand. -/
def Operand.token : Operand → Token
  | .const value => .plain (Text.decimal value)
  | .temp number => .name (tempText number)

/-- The token of a label where it is gone to. -/
def Label.token (label : Label) : Token := .name ("%" ++ label.text)

/-- The tokens of an instruction. -/
def Instr.tokens : Instr → List Token
  | .load dst source =>
    [.plain "\t", .name (tempText dst), .plain " = load i32, ptr ", source.token,
      .plain ", align 4"]
  | .arith dst op left right =>
    [.plain "\t", .name (tempText dst), .plain (" = " ++ op.mnemonic ++ " i32 "), left.token,
      .plain ", ", right.token]
  | .compare dst op left right =>
    [.plain "\t", .name (tempText dst), .plain (" = icmp " ++ op.mnemonic ++ " i32 "), left.token,
      .plain ", ", right.token]
  | .widen dst flag =>
    [.plain "\t", .name (tempText dst), .plain " = zext i1 ", .name (tempText flag),
      .plain " to i32"]
  | .call dst callee arg =>
    [.plain "\t", .name (tempText dst), .plain " = call i32 (i32) ", callee.token, .plain "(i32 ",
      arg.token, .plain ")"]
  | .store value target => [.plain "\tstore i32 ", value.token, .plain ", ptr ", target.token]
  | .jump target => [.plain "\tbr label ", target.token]
  | .branch flag ifTrue ifFalse =>
    [.plain "\tbr i1 ", .name (tempText flag), .plain ", label ", ifTrue.token, .plain ", label ",
      ifFalse.token]
  | .ret => [.plain "\tret i32 0"]
  | .alloca slot => [.plain "\t", .name slot.text, .plain " = alloca i32, align 4"]
  | .invoke callee => [.plain ("\tcall i32 " ++ callee ++ "()")]

/-- The tokens of a line. -/
def Line.tokens : Line → List Token
  | .instr i => i.tokens
  | .label l => [.label l.text, .plain ":"]
  | line => [.plain line.text]

/-- The names with a percent sign that a line mentions. -/
def Line.mentions (line : Line) : List String := line.tokens.filterMap Token.name?

/-- The names with a percent sign that the lines of a body mention. -/
def mentioned (body : List Line) : Set String := {name | name ∈ body.flatMap Line.mentions}

/-- The text of a line with its names replaced. -/
def Line.textWith (f : String → String) (line : Line) : String :=
  String.join (line.tokens.map (Token.textWith f))

@[simp] theorem Token.textWith_plain (f : String → String) (text : String) :
    (plain text).textWith f = text := rfl

@[simp] theorem Token.textWith_name (f : String → String) (text : String) :
    (name text).textWith f = f text := rfl

/-- A label's own line shows its name but for the first character. -/
theorem Token.textWith_label {f : String → String} {text other : String}
    (h : f ("%" ++ text) = "%" ++ other) : (label text).textWith f = other := by
  simp [textWith, h, String.toList_append]

@[simp] theorem Storage.textWith_token (place : Storage) :
    place.token.textWith id = place.text := by
  cases place <;> rfl

@[simp] theorem Operand.textWith_token (operand : Operand) :
    operand.token.textWith id = operand.text := by
  cases operand <;> rfl

@[simp] theorem Label.textWith_token (label : Label) :
    label.token.textWith id = "%" ++ label.text := rfl

/-- The tokens of a line make up its text. -/
theorem Line.textWith_id (line : Line) : line.textWith id = line.text := by
  have percent (before : String) : before ++ ", label " ++ "%" = before ++ ", label %" := by
    rw [String.append_assoc]
    rfl
  cases line with
  | instr i =>
    cases i <;>
      simp [textWith, tokens, Instr.tokens, text, Instr.text, String.join, ← String.append_assoc,
        percent]
  | label l => simp [textWith, tokens, text, Token.textWith_label, String.join]
  | _ => simp [textWith, tokens, String.join]

/-! ## §2. Lines that are alike. -/

/-- The tokens are the same, up to related names. -/
inductive Token.Alike (R : String → String → Prop) : Token → Token → Prop
  | plain (text : String) : Alike R (.plain text) (.plain text)
  | name {a b : String} (related : R a b) : Alike R (.name a) (.name b)
  | label {a b : String} (related : R ("%" ++ a) ("%" ++ b)) : Alike R (.label a) (.label b)

/-- The lines are the same, up to related names. -/
def Line.Alike (R : String → String → Prop) (line line' : Line) : Prop :=
  List.Forall₂ (Token.Alike R) line.tokens line'.tokens

/-- The relation is one to one. -/
def OneToOne (R : String → String → Prop) : Prop :=
  ∀ a b a' b', R a b → R a' b' → (a = a' ↔ b = b')

/-- The bodies are alike, line by line, by a one-to-one relation of names. -/
def AlikeBodies (body body' : List Line) : Prop :=
  ∃ R, OneToOne R ∧ List.Forall₂ (Line.Alike R) body body'

section

variable {R S : String → String → Prop}

theorem Token.Alike.textWith_eq {a b : Token} (h : Alike R a b) {f : String → String}
    (agrees : ∀ n n', R n n' → f n = n') : a.textWith f = b.textWith id := by
  cases h with
  | plain text => rfl
  | name related => exact agrees _ _ related
  | label related =>
    rw [textWith_label (agrees _ _ related), textWith_label (rfl : id ("%" ++ _) = _)]

theorem Line.Alike.textWith_eq {line line' : Line} (h : Line.Alike R line line')
    {f : String → String} (agrees : ∀ n n', R n n' → f n = n') :
    line.textWith f = line'.text := by
  have texts : line.tokens.map (Token.textWith f) = line'.tokens.map (Token.textWith id) := by
    unfold Line.Alike at h
    generalize line.tokens = tokens, line'.tokens = tokens' at h
    induction h with
    | nil => rfl
    | cons related _ ih => rw [List.map_cons, List.map_cons, related.textWith_eq agrees, ih]
  rw [textWith, texts, ← textWith, textWith_id]

/-- Lines that are alike mention related names. -/
theorem Line.Alike.mentions {line line' : Line} (h : Line.Alike R line line') :
    List.Forall₂ R line.mentions line'.mentions := by
  unfold Line.Alike at h
  unfold Line.mentions
  generalize line.tokens = tokens, line'.tokens = tokens' at h
  induction h with
  | nil => exact .nil
  | cons related _ ih =>
    cases related with
    | plain => exact ih
    | name related => exact .cons related ih
    | label related => exact .cons related ih

/-- Bodies that are alike mention related names. -/
theorem forall₂_mentions {body body' : List Line} (h : List.Forall₂ (Line.Alike R) body body') :
    List.Forall₂ R (body.flatMap Line.mentions) (body'.flatMap Line.mentions) := by
  induction h with
  | nil => exact .nil
  | cons related _ ih => exact List.rel_append related.mentions ih

/-! ## §3. Alike in both directions, and over a third body. -/

theorem Token.Alike.symm {a b : Token} (h : Alike R a b) : Alike (flip R) b a := by
  cases h with
  | plain text => exact .plain text
  | name related => exact .name related
  | label related => exact .label related

theorem Token.Alike.trans {a b c : Token} (h : Alike R a b) (h' : Alike S b c) :
    Alike (Relation.Comp R S) a c := by
  cases h with
  | plain text =>
    cases h' with
    | plain => exact .plain text
  | name related =>
    cases h' with
    | name related' => exact .name ⟨_, related, related'⟩
  | label related =>
    cases h' with
    | label related' => exact .label ⟨_, related, related'⟩

theorem Line.Alike.symm {line line' : Line} (h : Alike R line line') : Alike (flip R) line' line :=
  List.Forall₂.flip (h.imp fun _ _ => Token.Alike.symm)

theorem Line.Alike.trans {line line' line'' : Line} (h : Alike R line line')
    (h' : Alike S line' line'') : Alike (Relation.Comp R S) line line'' :=
  forall₂_trans h h' fun _ _ _ => Token.Alike.trans

theorem OneToOne.symm (h : OneToOne R) : OneToOne (flip R) :=
  fun _ _ _ _ first second => (h _ _ _ _ first second).symm

theorem OneToOne.comp (h : OneToOne R) (h' : OneToOne S) : OneToOne (Relation.Comp R S) := by
  rintro a b a' b' ⟨m, first, second⟩ ⟨m', first', second'⟩
  exact (h a m a' m' first first').trans (h' m b m' b' second second')

theorem AlikeBodies.symm {body body' : List Line} (h : AlikeBodies body body') :
    AlikeBodies body' body := by
  obtain ⟨R, oneToOne, lines⟩ := h
  exact ⟨_, oneToOne.symm, List.Forall₂.flip (lines.imp fun _ _ => Line.Alike.symm)⟩

theorem AlikeBodies.trans {body body' body'' : List Line} (h : AlikeBodies body body')
    (h' : AlikeBodies body' body'') : AlikeBodies body body'' := by
  obtain ⟨R, oneToOne, lines⟩ := h
  obtain ⟨S, oneToOne', lines'⟩ := h'
  exact ⟨_, oneToOne.comp oneToOne', forall₂_trans lines lines' fun _ _ _ => Line.Alike.trans⟩

theorem AlikeBodies.length_eq {body body' : List Line} (h : AlikeBodies body body') :
    body.length = body'.length := by
  obtain ⟨R, -, lines⟩ := h
  exact lines.length_eq

/-! ## §4. The bijection. -/

/-- A bijection between the names that two bodies mention turns each line of the first into the
corresponding line of the second. -/
def SameUpToNames (body body' : List Line) : Prop :=
  ∃ f : String → String, Set.BijOn f (mentioned body) (mentioned body')
    ∧ body'.map Line.text = body.map (Line.textWith f)

/-- A one-to-one relation is that of a function. -/
theorem OneToOne.exists_function (h : OneToOne R) :
    ∃ f : String → String, ∀ a b, R a b → f a = b := by
  classical
  refine ⟨fun a => if found : ∃ b, R a b then found.choose else a, fun a b related => ?_⟩
  have found : ∃ b, R a b := ⟨b, related⟩
  show (if found : ∃ b, R a b then found.choose else a) = b
  rw [dif_pos found]
  exact (h a _ a b found.choose_spec related).1 rfl

/-- **Bodies that are alike are the same up to names.** -/
theorem AlikeBodies.sameUpToNames {body body' : List Line} (h : AlikeBodies body body') :
    SameUpToNames body body' := by
  obtain ⟨R, oneToOne, lines⟩ := h
  obtain ⟨f, agrees⟩ := oneToOne.exists_function
  -- the names that the bodies mention are related in order, so each has a counterpart
  have related := forall₂_mentions lines
  refine ⟨f, ⟨fun a member => ?_, fun a member a' member' same => ?_, fun b member => ?_⟩, ?_⟩
  · obtain ⟨b, inside, pair⟩ := exists_of_forall₂ related a member
    rw [agrees a b pair]
    exact inside
  · obtain ⟨b, -, pair⟩ := exists_of_forall₂ related a member
    obtain ⟨b', -, pair'⟩ := exists_of_forall₂ related a' member'
    rw [agrees a b pair, agrees a' b' pair'] at same
    exact (oneToOne a b a' b' pair pair').2 same
  · obtain ⟨a, inside, pair⟩ := exists_of_forall₂ related.flip b member
    exact ⟨a, inside, agrees a b pair⟩
  · clear related
    induction lines with
    | nil => rfl
    | cons alike _ ih => rw [List.map_cons, List.map_cons, alike.textWith_eq agrees, ih]

end

end SlotIR
