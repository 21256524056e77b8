/-
  SlotIR.Proofs.Structure.Blocks
  ──────────────────────────────
  **BASIC BLOCKS.**

  The label lines cut the body of a function into basic blocks.  Whether
  each of them ends as it should is decided by a walk over the lines that
  remembers one bit, whether the block at hand is still OPEN (`walk`):

      open     instruction  →  open, or closed if it is a terminator
      closed   label        →  open
      closed   instruction,  open  label        no walk

  A walk over two pieces of code is a walk over the first and then over
  the second (`walk_append`), so it goes along with the emission of code;
  what it says about the blocks is `endsOnce_of_walk`.
-/
import SlotIR.Proofs.Structure.Definitions

namespace SlotIR

/-! ## §1. Blocks. -/

/-- A basic block: its label, which the first block of a function lacks, and its instructions. -/
structure Block where
  label : Option Label
  code : List Instr
  deriving DecidableEq, Repr

/-- The instructions up to the next label. -/
def openingCode : List Line → List Instr
  | [] => []
  | .instr i :: rest => i :: openingCode rest
  | .label _ :: _ => []
  | _ :: rest => openingCode rest

/-- The blocks that start at a label. -/
def labelledBlocks : List Line → List Block
  | [] => []
  | .label l :: rest => ⟨some l, openingCode rest⟩ :: labelledBlocks rest
  | _ :: rest => labelledBlocks rest

/-- The basic blocks of a function's body, the entry block first. -/
def blocks (body : List Line) : List Block := ⟨none, openingCode body⟩ :: labelledBlocks body

/-- The instructions end in a terminator and have no other. -/
def EndsOnce (code : List Instr) : Prop :=
  ∃ before last, code = before ++ [last] ∧ last.isTerminator = true
    ∧ ∀ i ∈ before, i.isTerminator = false

theorem EndsOnce.one {i : Instr} (h : i.isTerminator = true) : EndsOnce [i] :=
  ⟨[], i, rfl, h, fun _ member => by cases member⟩

theorem EndsOnce.cons {i : Instr} {code : List Instr} (h : EndsOnce code)
    (plain : i.isTerminator = false) : EndsOnce (i :: code) := by
  obtain ⟨before, last, rfl, ends, others⟩ := h
  refine ⟨i :: before, last, rfl, ends, fun j member => ?_⟩
  rcases List.mem_cons.1 member with rfl | later
  · exact plain
  · exact others j later

/-! ## §2. The walk. -/

/-- Walk through lines; the bit says whether the block at hand is open.  The walk fails where a
block goes on after its terminator or a new one starts before it. -/
def walk : Bool → List Line → Option Bool
  | isOpen, [] => some isOpen
  | true, .instr i :: rest => walk (!i.isTerminator) rest
  | false, .instr _ :: _ => none
  | true, .label _ :: _ => none
  | false, .label _ :: rest => walk true rest
  | isOpen, _ :: rest => walk isOpen rest

theorem walk_append : ∀ (isOpen : Bool) (c d : List Line),
    walk isOpen (c ++ d) = (walk isOpen c).bind fun next => walk next d := by
  intro isOpen c d
  induction c generalizing isOpen with
  | nil => rfl
  | cons line rest ih =>
    cases line with
    | instr i =>
      cases isOpen with
      | true => exact ih (!i.isTerminator)
      | false => rfl
    | label l =>
      cases isOpen with
      | true => rfl
      | false => exact ih true
    | _ => cases isOpen <;> exact ih _

/-- Two pieces that are walked one after the other. -/
theorem walk_append_of_eq {a b e : Bool} {c d : List Line} (first : walk a c = some b)
    (second : walk b d = some e) : walk a (c ++ d) = some e := by
  rw [walk_append, first]
  exact second

/-- A walk that ends in a closed block has met only blocks that end as they should. -/
theorem endsOnce_of_walk : ∀ (isOpen : Bool) (lines : List Line),
    walk isOpen lines = some false →
    (if isOpen then EndsOnce (openingCode lines) else openingCode lines = [])
      ∧ ∀ b ∈ labelledBlocks lines, EndsOnce b.code := by
  intro isOpen lines
  induction lines generalizing isOpen with
  | nil =>
    intro h
    cases h
    exact ⟨rfl, fun _ member => by cases member⟩
  | cons line rest ih =>
    intro h
    cases line with
    | instr i =>
      cases isOpen with
      | false => cases h
      | true =>
        obtain ⟨here, later⟩ := ih _ h
        refine ⟨?_, later⟩
        show EndsOnce (i :: openingCode rest)
        -- a terminator closes the block, so no instruction may follow it in this block
        cases ends : i.isTerminator with
        | false =>
          rw [ends] at here
          exact EndsOnce.cons here ends
        | true =>
          rw [ends] at here
          rw [show openingCode rest = [] from here]
          exact EndsOnce.one ends
    | label l =>
      cases isOpen with
      | true => cases h
      -- the lines after a label are the opening of a block of their own
      | false =>
        obtain ⟨here, later⟩ := ih _ h
        refine ⟨rfl, fun b member => ?_⟩
        rcases List.mem_cons.1 member with rfl | rest
        · exact here
        · exact later b rest
    | _ => cases isOpen <;> exact ih _ h

/-- If the walk through a body ends in a closed block, all blocks end as they should. -/
theorem endsOnce_blocks {body : List Line} (h : walk true body = some false) :
    ∀ b ∈ blocks body, EndsOnce b.code := by
  obtain ⟨entry, labelled⟩ := endsOnce_of_walk true body h
  intro b member
  rcases List.mem_cons.1 member with rfl | later
  · exact entry
  · exact labelled b later

/-! ## §3. The last block. -/

/-- The last instruction of a body is the last one of its last block. -/
theorem getLast_blocks (body : List Line) (i : Instr) :
    ((blocks (body ++ [.instr i])).getLast?.bind fun b => b.code.getLast?) = some i := by
  -- the label of the first block changes along the induction
  suffices general : ∀ label : Option Label,
      (((⟨label, openingCode (body ++ [.instr i])⟩ : Block)
        :: labelledBlocks (body ++ [.instr i])).getLast?.bind fun b => b.code.getLast?) = some i from
    general none
  induction body with
  | nil => intro label; rfl
  | cons line rest ih =>
    intro label
    cases line with
    | label l =>
      show (((_ : Block) :: _ :: labelledBlocks (rest ++ [.instr i])).getLast?.bind _) = _
      rw [List.getLast?_cons_cons]
      exact ih (some l)
    | instr j =>
      have later := ih label
      show (((⟨label, j :: openingCode (rest ++ [.instr i])⟩ : Block)
        :: labelledBlocks (rest ++ [.instr i])).getLast?.bind fun b => b.code.getLast?) = _
      -- the first block is the last one too if no label follows
      cases labelled : labelledBlocks (rest ++ [.instr i]) with
      | cons b more =>
        rw [labelled, List.getLast?_cons_cons] at later
        rw [List.getLast?_cons_cons]
        exact later
      | nil =>
        rw [labelled] at later
        have last : (openingCode (rest ++ [.instr i])).getLast? = some i := later
        show (j :: openingCode (rest ++ [.instr i])).getLast? = some i
        cases code : openingCode (rest ++ [.instr i]) with
        | nil =>
          rw [code] at last
          cases last
        | cons k more =>
          rw [List.getLast?_cons_cons, ← code]
          exact last
    | _ => exact ih label

/-! ## §4. Blocks and lines. -/

/-- The instructions of the blocks are those of the body, in order. -/
theorem flatMap_blocks (body : List Line) : (blocks body).flatMap Block.code = instrs body := by
  show openingCode body ++ (labelledBlocks body).flatMap Block.code = instrs body
  induction body with
  | nil => rfl
  | cons line rest ih =>
    cases line with
    | instr i =>
      show i :: (openingCode rest ++ (labelledBlocks rest).flatMap Block.code) = i :: instrs rest
      rw [ih]
    | label l => exact ih
    | _ => exact ih

end SlotIR
