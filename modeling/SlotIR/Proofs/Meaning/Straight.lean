/-
  SlotIR.Proofs.Meaning.Straight
  ──────────────────────────────
  **STRAIGHT CODE OVER ONE MEMORY.**

  Code without branches can be run on its own, wherever it stands: from any
  temporaries, and from a MEMORY with a value at every storage name, slots
  and symbols alike.  So nothing has to be known about the state in which
  an expression is lowered.  On the side of the source a name is bound to
  its storage name (`addressed`), and an expression is evaluated as in any
  program (`evalExpr`).  Main result:

    • `lowerExpr_computes` — the lines of an expression define new
      temporaries only, and compute its value with the same calls and the
      same memory, from whatever state they were emitted.
-/
import SlotIR.Proofs.Emission.Sound
import SlotIR.Proofs.Meaning.Expressions

namespace SlotIR

/-! ## §1. Runs of straight code. -/

/-- The values at storage names. -/
abbrev Memory := Globals

/-- What straight code works on. -/
structure Cells where
  /-- The temporaries, by their numbers. -/
  temps : Nat → Option TempValue
  memory : Memory
  calls : List Call

namespace Cells

/-- Define a temporary. -/
def define (c : Cells) (dst : Nat) (v : TempValue) : Cells :=
  { c with temps := fun n => if n = dst then some v else c.temps n }

/-- The i32 value of an operand. -/
def value (c : Cells) : Operand → Option Word
  | .const n => some (wrap n)
  | .temp n =>
    match c.temps n with
    | some (.i32 v) => some v
    | _ => none

theorem value_temp {c : Cells} {d : Nat} {v : Word} (found : c.temps d = some (.i32 v)) :
    c.value (.temp d) = some v := by
  unfold value
  simp only [found]

@[simp] theorem temps_define_self (c : Cells) (dst : Nat) (v : TempValue) :
    (c.define dst v).temps dst = some v :=
  if_pos rfl

theorem temps_define_of_ne (c : Cells) {dst i : Nat} (ne : i ≠ dst) (v : TempValue) :
    (c.define dst v).temps i = c.temps i :=
  if_neg ne

end Cells

/-- A run of straight code, which is cut short where the function ends. -/
abbrev Straight := EStateM Ending Cells

/-- Perform an instruction that goes nowhere. -/
def Instr.execute (handler : Handler) : Instr → Straight Unit
  | .load dst source => fun c => .ok () (c.define dst (.i32 (c.memory source.text)))
  | .arith dst op left right => fun c =>
    match c.value left, c.value right with
    | some a, some b =>
      match op.execute a b with
      | some v => .ok () (c.define dst (.i32 v))
      | none => .error .undefined c
    | _, _ => .error .stuck c
  | .compare dst op left right => fun c =>
    match c.value left, c.value right with
    | some a, some b => .ok () (c.define dst (.i1 (op.execute a b)))
    | _, _ => .error .stuck c
  | .widen dst flag => fun c =>
    match c.temps flag with
    | some (.i1 b) => .ok () (c.define dst (.i32 (ofBool b)))
    | _ => .error .stuck c
  | .call dst callee arg => fun c =>
    match c.value arg with
    | none => .error .stuck c
    | some a =>
      let calls := c.calls ++ [⟨callee.text, some a⟩]
      match handler calls c.memory with
      | none => .error .abandoned { c with calls }
      | some (answer, memory) => .ok () ({ c with memory, calls }.define dst (.i32 answer))
  | .store v target => fun c =>
    match c.value v with
    | none => .error .stuck c
    | some a => .ok () { c with memory := c.memory.update target.text a }
  | .jump _ | .branch .. | .ret | .alloca _ | .invoke _ => fun c => .error .stuck c

/-- Perform instructions in order. -/
def executeAll (handler : Handler) : List Instr → Straight Unit
  | [] => return
  | i :: rest => do
    i.execute handler
    executeAll handler rest

theorem executeAll_append (handler : Handler) (first second : List Instr) :
    executeAll handler (first ++ second)
      = (do executeAll handler first; executeAll handler second) := by
  induction first with
  | nil => rfl
  | cons i rest ih =>
    show (i.execute handler >>= fun _ => executeAll handler (rest ++ second)) = _
    rw [ih]
    exact (bind_assoc (i.execute handler) _ _).symm

theorem executeAll_one (handler : Handler) (i : Instr) :
    executeAll handler [i] = i.execute handler :=
  bind_pure (i.execute handler)

/-! ## §2. Code that mirrors a run. -/

/-- The same memory and calls. -/
structure Mirrored (w : World) (c : Cells) : Prop where
  memory : c.memory = w.globals
  calls : c.calls = w.calls

/-- Straight code gets to where a run of the source gets to: to cells that fit its value, or to the
same end with the same memory and calls.  A run that makes no sense is mirrored by no code. -/
inductive Mirrors {α : Type} (fits : α → World → Cells → Prop) :
    EStateM.Result Stop World α → EStateM.Result Ending Cells Unit → Prop
  | returns {a : α} {w : World} {c : Cells} (fit : fits a w c) :
    Mirrors fits (.ok a w) (.ok () c)
  | ends {ending : Ending} {w : World} {c : Cells} (sound : ending ≠ .stuck)
    (same : Mirrored w c) : Mirrors fits (.error (.ended ending) w) (.error ending c)

/-- **Runs are mirrored one after the other.** -/
theorem Mirrors.bind {α β : Type} {fits : α → World → Cells → Prop}
    {thenFits : β → World → Cells → Prop} {x : Run α} {f : α → Run β} {code : Straight Unit}
    {rest : Straight Unit} {w : World} {c : Cells} (first : Mirrors fits (x w) (code c))
    (second : ∀ a w' c', fits a w' c' → Mirrors thenFits (f a w') (rest c')) :
    Mirrors thenFits ((x >>= f) w) ((do code; rest) c) := by
  show Mirrors thenFits (EStateM.bind x f w) (EStateM.bind code (fun _ => rest) c)
  unfold EStateM.bind
  generalize x w = source at first ⊢
  generalize code c = target at first ⊢
  cases first with
  | returns fit => exact second _ _ _ fit
  | ends sound same => exact .ends sound same

/-! ## §3. Expressions. -/

/-- Names are bound to storage names. -/
def addressed (scope : Chain Key Storage) : Env :=
  Chain.map (fun place => .global place.text) scope

theorem meaning_addressed {scope : Chain Key Storage} {name : Name} {place : Storage}
    (means : Means scope name place) :
    (addressed scope).meaning name = some (.global place.text) := by
  obtain ⟨key, keyed, found⟩ := means
  unfold Env.meaning addressed
  simp only [keyed, Chain.find?_map, found, Option.map_some]

/-- The cells after an expression: its value stands in `%td`, the temporaries below `n` are as they
were, and memory and calls are as in the source. -/
structure Valued (n d : Nat) (before : Cells) (v : Word) (w : World) (after : Cells) : Prop where
  result : after.temps d = some (.i32 v)
  kept : ∀ i < n, after.temps i = before.temps i
  same : Mirrored w after

section

variable {n m d l : Nat} {before c c' : Cells} {v a : Word} {w w' : World}

/-- An instruction defines the temporary with the value. -/
theorem Mirrored.valued (same : Mirrored w c) (kept : ∀ i < n, c.temps i = before.temps i)
    (le : n ≤ d) (v : Word) : Valued n d before v w (c.define d (.i32 v)) where
  result := c.temps_define_self d _
  kept := by
    intro i below
    rw [c.temps_define_of_ne (by omega)]
    exact kept i below
  same := ⟨same.memory, same.calls⟩

/-- The value is still there, and so are earlier ones, after code that draws later numbers. -/
theorem Valued.still (one : Valued n l before a w c) (kept : ∀ i < m, c'.temps i = c.temps i)
    (lt : l < m) (le : n ≤ m) :
    c'.temps l = some (.i32 a) ∧ ∀ i < n, c'.temps i = before.temps i := by
  refine ⟨(kept l lt).trans one.result, fun i below => ?_⟩
  exact (kept i (Nat.lt_of_lt_of_le below le)).trans (one.kept i below)

end

section

variable {handler : Handler} {scope : Chain Key Storage} {n m d : Nat} {w : World}
  {c before : Cells}

/-- A call is answered as in the source. -/
theorem Mirrored.call (same : Mirrored w c) {fn : Storage} {arg : Nat} {a : Word}
    (found : c.temps arg = some (.i32 a)) (kept : ∀ i < n, c.temps i = before.temps i)
    (le : n ≤ d) :
    Mirrors (Valued n d before) (callFunction handler a (.global fn.text) w)
      ((Instr.call d fn (.temp arg)).execute handler c) := by
  unfold callFunction Instr.execute
  simp only [c.value_temp found, same.memory, same.calls]
  cases answered : handler (w.calls ++ [⟨fn.text, some a⟩]) w.globals with
  | none => exact .ends (by decide) ⟨rfl, rfl⟩
  | some answer =>
    obtain ⟨v, memory⟩ := answer
    let calls := w.calls ++ [⟨fn.text, some a⟩]
    have answeredSame : Mirrored { w with globals := memory, calls } { c with memory, calls } :=
      ⟨rfl, rfl⟩
    exact .returns (answeredSame.valued kept le v)

/-- **Code of an expression computes its value over one memory.** -/
theorem ExprCode.mirrors {e : Expr} {code : List Instr} (h : ExprCode scope n e code d m)
    (same : Mirrored w c) :
    Mirrors (Valued n d c) (evalExpr handler (addressed scope) e w)
      (executeAll handler code c) := by
  induction h generalizing w c with
  | @ident n id source means =>
    rw [evalExpr, meaning_addressed means, executeAll_one]
    show Mirrors _ (.ok (w.globals source.text) w)
      (.ok () (c.define n (.i32 (c.memory source.text))))
    rw [same.memory]
    exact .returns (same.valued (fun _ _ => rfl) (Nat.le_refl n) _)
  | @number n pos value =>
    rw [evalExpr, executeAll_one]
    have computed : (Instr.arith n .add (.const 0) (.const value)).execute handler c
        = .ok () (c.define n (.i32 (wrap value))) := by
      simp only [Instr.execute, Cells.value, execute_add_zero]
    rw [computed]
    exact .returns (same.valued (fun _ _ => rfl) (Nat.le_refl n) _)
  | @arith n m k l r pos op left right cl cr first second ihLeft ihRight =>
    rw [evalExpr, List.append_assoc, executeAll_append, executeAll_append, executeAll_one]
    refine (ihLeft same).bind fun a w₁ c₁ one => ?_
    refine (ihRight one.same).bind fun b w₂ c₂ two => ?_
    obtain ⟨leftValue, kept⟩ := one.still two.kept first.result_lt first.draws.le
    have le : n ≤ k := Nat.le_trans first.draws.le second.draws.le
    simp only [Instr.execute, Cells.value_temp leftValue, Cells.value_temp two.result,
      op.execute_eq]
    show Mirrors _ (Run.defined (op.value a b) w₂) _
    -- without a value both sides end, and with one both go on
    cases op.value a b with
    | none => exact .ends (by decide) two.same
    | some v => exact .returns (two.same.valued kept le v)
  | @compare n m k l r pos op left right cl cr first second ihLeft ihRight =>
    rw [evalExpr, List.append_assoc, executeAll_append, executeAll_append]
    refine (ihLeft same).bind fun a w₁ c₁ one => ?_
    refine (ihRight one.same).bind fun b w₂ c₂ two => ?_
    obtain ⟨leftValue, kept⟩ := one.still two.kept first.result_lt first.draws.le
    have le : n ≤ k := Nat.le_trans first.draws.le second.draws.le
    -- the flag is defined first, and then widened
    have flagged : executeAll handler
        [.compare k op (.temp l) (.temp r), .widen (k + 1) k] c₂
        = .ok () ((c₂.define k (.i1 (op.execute a b))).define (k + 1)
            (.i32 (ofBool (op.holds a b)))) := by
      show EStateM.bind _ _ c₂ = _
      simp only [EStateM.bind, Instr.execute, Cells.value_temp leftValue,
        Cells.value_temp two.result, executeAll_one, Cells.temps_define_self, op.execute_eq]
    rw [flagged]
    have same₂ : Mirrored w₂ (c₂.define k (.i1 (op.execute a b))) :=
      ⟨two.same.memory, two.same.calls⟩
    refine .returns (same₂.valued (fun i below => ?_) (by omega) _)
    rw [c₂.temps_define_of_ne (by omega)]
    exact kept i below
  | @minus n m l pos operand cl inner ih =>
    rw [evalExpr, executeAll_append, executeAll_one]
    refine (ih same).bind fun a w₁ c₁ one => ?_
    have computed : (Instr.arith m .sub (.const 0) (.temp l)).execute handler c₁
        = .ok () (c₁.define m (.i32 (wrap (-a.toInt)))) := by
      have zero : c₁.value (.const 0) = some (wrap 0) := rfl
      simp only [Instr.execute, zero, Cells.value_temp one.result, execute_zero_sub]
    rw [computed]
    exact .returns (one.same.valued one.kept inner.draws.le _)
  | plus _ ih =>
    rw [evalExpr]
    exact ih same
  | paren _ ih =>
    rw [evalExpr]
    exact ih same
  | @call n m a pos callee fn arg cl means inner ih =>
    rw [evalExpr, meaning_addressed means, executeAll_append, executeAll_one]
    show Mirrors _ ((evalExpr handler (addressed scope) arg >>= fun v =>
      callFunction handler v (.global fn.text)) w) _
    refine (ih same).bind fun v w₁ c₁ one => ?_
    exact one.same.call one.result one.kept inner.draws.le

/-- Each instruction of an expression defines a temporary. -/
theorem ExprCode.defines {e : Expr} {code : List Instr} (h : ExprCode scope n e code d m) :
    code.all (fun i => i.result?.isSome) = true := by
  induction h with
  | ident => rfl
  | number => rfl
  | arith _ _ ihLeft ihRight =>
    rw [List.all_append, List.all_append, ihLeft, ihRight]
    rfl
  | compare _ _ ihLeft ihRight =>
    rw [List.all_append, List.all_append, ihLeft, ihRight]
    rfl
  | minus _ ih =>
    rw [List.all_append, ih]
    rfl
  | plus _ ih => exact ih
  | paren _ ih => exact ih
  | call _ _ ih =>
    rw [List.all_append, ih]
    rfl

end

/-- An instruction with a result neither stores nor ends a block. -/
theorem Instr.isTerminator_of_result? {i : Instr} (h : i.result?.isSome = true) :
    i.isTerminator = false ∧ ∀ v place, i ≠ .store v place := by
  cases i with
  | store | jump | branch | ret | alloca | invoke => cases h
  | _ => exact ⟨rfl, fun _ _ => nofun⟩

/-! ## §4. The expression step. -/

/-- **The lines of an expression compute its value, from whatever state they were emitted.**  Lines
are added and numbers drawn, and nothing else changes: each line defines a temporary, each number
drawn is that of one of them, and none stores or ends a block.  Whatever the temporaries and the
memory hold and whatever calls do, the lines make the calls of the expression in its order and come
to its value in the returned temporary with the same memory, the older temporaries unchanged, or end
in the same way where an operation has no result or a call does not return. -/
theorem lowerExpr_computes {e : Expr} {s t : State} {d : Nat} (h : lowerExpr e s = .ok d t) :
    ∃ code, t = { s with lines := s.lines ++ straight code, nextId := t.nextId }
      ∧ (∀ i ∈ code, i.result?.isSome = true ∧ i.isTerminator = false
          ∧ ∀ v place, i ≠ .store v place)
      ∧ Draws (drawn (straight code)) s.nextId t.nextId
      ∧ ∀ handler temps memory calls, Mirrors (Valued s.nextId d ⟨temps, memory, calls⟩)
          (evalExpr handler (addressed s.scope) e ⟨[], memory, calls⟩)
          (executeAll handler code ⟨temps, memory, calls⟩) := by
  obtain ⟨code, n, emitted, rfl⟩ := lowerExpr_sound e h
  refine ⟨code, s.extend_drawTo _ n, fun i member => ?_, emitted.draws,
    fun handler temps memory calls => ?_⟩
  · have defines := List.all_eq_true.1 emitted.defines i member
    exact ⟨defines, Instr.isTerminator_of_result? defines⟩
  · exact emitted.mirrors ⟨rfl, rfl⟩

/-- A state that no file leads to: a number stands among the lines, `x` is kept at a symbol of
another name, and `exit` is a variable. -/
def oddStorage : State where
  lines := [.raw (.int 7)]
  scope :=
    [Frame.ofList [(.text "x", .symbol "@ugo_main_g"),
        (.text "exit", .slot ⟨"f", .offset 1, none⟩)],
      builtinFrame]
  nextId := 4
  decl := some (.func "f")

/-- `x / -println(x) + (x < 3)`. -/
def mixedOperands : Expr :=
  .binary (.offset 1) (.known (.arith .add))
    (.binary (.offset 2) (.known (.arith .div)) (.ident ⟨.offset 3, .ofText "x"⟩)
      (.unary (.offset 4) (.known .minus)
        (.call (.offset 5) (.ok ⟨.offset 5, .ofText "println"⟩)
          (.ok [.ident ⟨.offset 6, .ofText "x"⟩]))))
    (.paren (.offset 7) (.binary (.offset 8) (.known (.compare .lt))
      (.ident ⟨.offset 9, .ofText "x"⟩) (.number (.offset 10) (.ok 3))))

theorem lowerExpr_computes_mixedOperands :
    ∃ d t, lowerExpr mixedOperands oddStorage = .ok d t
      ∧ ∃ code,
        t = { oddStorage with lines := oddStorage.lines ++ straight code, nextId := t.nextId }
        ∧ (∀ i ∈ code, i.result?.isSome = true ∧ i.isTerminator = false
            ∧ ∀ v place, i ≠ .store v place)
        ∧ Draws (drawn (straight code)) 4 t.nextId
        ∧ ∀ handler temps memory calls, Mirrors (Valued 4 d ⟨temps, memory, calls⟩)
            (evalExpr handler (addressed oddStorage.scope) mixedOperands ⟨[], memory, calls⟩)
            (executeAll handler code ⟨temps, memory, calls⟩) := by
  have accepted : Lower.succeeds (lowerExpr mixedOperands oddStorage) = true := by decide +kernel
  obtain ⟨d, t, ran⟩ := Lower.exists_of_succeeds accepted
  exact ⟨d, t, ran, lowerExpr_computes ran⟩

/-- The call sets all of memory to 2 after the first operand is loaded: 7 / -(-3) + (2 < 3). -/
example :
    (match evalExpr (fun _ _ => some (-3, fun _ => 2)) (addressed oddStorage.scope) mixedOperands
        ⟨[], fun _ => 7, []⟩ with
      | .ok v w => some (v.toInt, w.calls)
      | .error _ _ => none) = some (3, [⟨"@ugo_builtin_println", some 7⟩]) := by
  decide +kernel

end SlotIR
