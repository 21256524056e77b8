/-
  SlotIR.Proofs.Meaning.Expressions
  ─────────────────────────────────
  **CODE OF EXPRESSIONS COMPUTES THEIR VALUES.**

  The code of an expression leaves its value in a temporary, and keeps
  every temporary with a number below those that it draws: an operand is
  still there when the other one has been evaluated.  By induction on the
  code (`ExprCode.follows`), and then for expressions in a row, initial
  values and tests.
-/
import SlotIR.Proofs.Meaning.Correspondence

namespace SlotIR

section

variable {handler : Handler} {body rest k : List Line} {n m d : Nat} {c : Config} {v a b : Word}

/-! ## §1. Steps of instructions. -/

theorem step_load {source : Storage} (next : c.rest = .instr (.load d source) :: rest)
    (found : c.read source = .ok v) :
    step handler body c = .running ({ c with rest }.define d (.i32 v)) := by
  have same : ({ c with rest } : Config).read source = .ok v := found
  rw [step_instr next]
  simp only [perform, same]

theorem step_arith {op : ArithOp} {left right : Operand}
    (next : c.rest = .instr (.arith d op left right) :: rest) (first : c.value left = some a)
    (second : c.value right = some b) (computed : op.execute a b = some v) :
    step handler body c = .running ({ c with rest }.define d (.i32 v)) := by
  have one : ({ c with rest } : Config).value left = some a := first
  have two : ({ c with rest } : Config).value right = some b := second
  rw [step_instr next]
  simp only [perform, one, two, computed]

theorem step_arith_none {op : ArithOp} {left right : Operand}
    (next : c.rest = .instr (.arith d op left right) :: rest) (first : c.value left = some a)
    (second : c.value right = some b) (undefined : op.execute a b = none) :
    step handler body c = .ended .undefined { c with rest } := by
  have one : ({ c with rest } : Config).value left = some a := first
  have two : ({ c with rest } : Config).value right = some b := second
  rw [step_instr next]
  simp only [perform, one, two, undefined]

theorem step_compare {op : CompareOp} {left right : Operand}
    (next : c.rest = .instr (.compare d op left right) :: rest) (first : c.value left = some a)
    (second : c.value right = some b) :
    step handler body c = .running ({ c with rest }.define d (.i1 (op.execute a b))) := by
  have one : ({ c with rest } : Config).value left = some a := first
  have two : ({ c with rest } : Config).value right = some b := second
  rw [step_instr next]
  simp only [perform, one, two]

theorem step_widen {flag : Nat} {t : Bool} (next : c.rest = .instr (.widen d flag) :: rest)
    (found : c.temps flag = some (.i1 t)) :
    step handler body c = .running ({ c with rest }.define d (.i32 (ofBool t))) := by
  rw [step_instr next]
  simp only [perform, found]

theorem step_store {operand : Operand} {place : Storage} {after : Config}
    (next : c.rest = .instr (.store operand place) :: rest) (found : c.value operand = some v)
    (written : ({ c with rest } : Config).write v place = some after) :
    step handler body c = .running after := by
  have same : ({ c with rest } : Config).value operand = some v := found
  rw [step_instr next]
  simp only [perform, same, written]

theorem value_temp (found : c.temps d = some (.i32 v)) : c.value (.temp d) = some v := by
  unfold Config.value
  simp only [found]

end

/-! ## §2. Values of expressions. -/

/-- The configuration after an expression: its value stands in `%td`, and the temporaries below `n`
are as they were. -/
structure Evaluated (holds : String → Nat) (reserved : List String) (scope : Chain Key Storage)
    (env : Env) (n d : Nat) (k : List Line) (before : Config) (v : Word) (w : World) (c : Config) :
    Prop where
  rest : c.rest = k
  result : c.temps d = some (.i32 v)
  kept : ∀ i < n, c.temps i = before.temps i
  agree : Agree holds reserved scope env w c

section

variable {handler : Handler} {body k : List Line} {rounds n m d : Nat} {holds : String → Nat}
  {reserved : List String} {scope : Chain Key Storage} {env : Env} {w : World} {c before : Config}

/-- An instruction defines the temporary with the value. -/
theorem Agree.evaluated (agree : Agree holds reserved scope env w c)
    (kept : ∀ i < n, c.temps i = before.temps i) (le : n ≤ d) (v : Word) :
    Evaluated holds reserved scope env n d k before v w ({ c with rest := k }.define d (.i32 v))
    where
  rest := rfl
  result := if_pos rfl
  kept := by
    intro i below
    have apart : i ≠ d := by omega
    exact (if_neg apart).trans (kept i below)
  agree := agree.of_eq rfl rfl rfl

/-- The value is still there, and so are earlier ones, after code that draws later numbers. -/
theorem Evaluated.still {l : Nat} {a : Word} {w₁ : World} {c₁ c₂ : Config}
    (one : Evaluated holds reserved scope env n l k before a w₁ c₁)
    (kept : ∀ i < m, c₂.temps i = c₁.temps i) (lt : l < m) (le : n ≤ m) :
    c₂.temps l = some (.i32 a) ∧ ∀ i < n, c₂.temps i = before.temps i := by
  refine ⟨(kept l lt).trans one.result, fun i below => ?_⟩
  exact (kept i (Nat.lt_of_lt_of_le below le)).trans (one.kept i below)

/-- A place is read as the variable that it holds. -/
theorem Agree.read (agree : Agree holds reserved scope env w c) {place : Storage}
    (member : place ∈ Chain.values scope) :
    ∃ v, readVariable (bindingOf holds place) w = .ok v w ∧ c.read place = .ok v := by
  cases place with
  | slot slot =>
    obtain ⟨v, current, written⟩ := agree.held slot member
    refine ⟨v, ?_, ?_⟩
    · show Run.require w.locals[holds slot.text]? w = .ok v w
      rw [current]
      rfl
    · unfold Config.read
      simp only [written]
  | symbol text => exact ⟨_, rfl, by rw [← agree.shows.globals]; rfl⟩
  | given value => exact ⟨_, rfl, by rw [← agree.shows.globals]; rfl⟩

/-- **A call is answered as in the source.** -/
theorem Agree.call (agree : Agree holds reserved scope env w c) {fn : Storage} {arg : Nat}
    {a : Word} (next : c.rest = .instr (.call d fn (.temp arg)) :: k)
    (found : c.temps arg = some (.i32 a)) (kept : ∀ i < n, c.temps i = before.temps i)
    (le : n ≤ d) :
    Follows handler body rounds c (Evaluated holds reserved scope env n d k before)
      (callFunction handler a (bindingOf holds fn) w) := by
  have value : ({ c with rest := k } : Config).value (.temp arg) = some a := value_temp found
  -- what is called at a symbol sees the same calls and package variables on both sides
  have symbol (text : String)
      (stepped : step handler body c
        = performCall handler { c with rest := k } ⟨text, some a⟩ (some d)) :
      Follows handler body rounds c (Evaluated holds reserved scope env n d k before)
        (callFunction handler a (.global text) w) := by
    unfold callFunction
    unfold performCall at stepped
    simp only [agree.shows.globals, agree.shows.calls] at stepped
    cases answered : handler (w.calls ++ [⟨text, some a⟩]) w.globals with
    | none =>
      simp only [answered] at stepped ⊢
      exact .ends (by decide) stepped ⟨rfl, rfl⟩
    | some answer =>
      obtain ⟨v, globals⟩ := answer
      simp only [answered] at stepped ⊢
      refine .step stepped (.here ?_)
      have changed : Agree holds reserved scope env
          { w with globals, calls := w.calls ++ [⟨text, some a⟩] }
          { c with globals, calls := w.calls ++ [⟨text, some a⟩] } :=
        agree.of_shows rfl rfl ⟨rfl, rfl⟩
      exact changed.evaluated kept le v
  cases fn with
  | slot slot =>
    have stepped : step handler body c = .ended .undefined { c with rest := k } := by
      rw [step_instr next]
      simp only [perform, value]
    exact .ends (by decide) stepped ⟨agree.shows.globals, agree.shows.calls⟩
  | symbol text =>
    refine symbol text ?_
    rw [step_instr next]
    simp only [perform, value]
    rfl
  | given given =>
    refine symbol (Storage.given given).text ?_
    rw [step_instr next]
    simp only [perform, value]

theorem ExprCode.result_lt {e : Expr} {code : List Instr} (h : ExprCode scope n e code d m) :
    d < m := by
  induction h with
  | plus _ ih => exact ih
  | paren _ ih => exact ih
  | _ => exact Nat.lt_succ_self _

/-- **Code of an expression computes its value.** -/
theorem ExprCode.follows {e : Expr} {code : List Instr} (h : ExprCode scope n e code d m)
    (agree : Agree holds reserved scope env w c) (rest : c.rest = straight code ++ k) :
    Follows handler body rounds c (Evaluated holds reserved scope env n d k c)
      (evalExpr handler env e w) := by
  induction h generalizing w c k with
  | @ident n id source means =>
    rw [evalExpr, agree.meaning means]
    obtain ⟨v, value, found⟩ := agree.read means.mem_values
    show Follows _ _ _ _ _ (readVariable (bindingOf holds source) w)
    rw [value]
    exact .step (step_load rest found) (.here (agree.evaluated (fun _ _ => rfl) (Nat.le_refl n) v))
  | @number n pos value =>
    rw [evalExpr]
    have stepped : step handler body c = .running _ :=
      step_arith rest rfl rfl (execute_add_zero value)
    exact .step stepped (.here (agree.evaluated (fun _ _ => rfl) (Nat.le_refl n) _))
  | @arith n m k' l r pos op left right cl cr first second ihLeft ihRight =>
    rw [evalExpr]
    simp only [straight_append, List.append_assoc] at rest
    refine (ihLeft agree rest).bind fun a w₁ c₁ one => ?_
    refine (ihRight one.agree one.rest).bind fun b w₂ c₂ two => ?_
    obtain ⟨leftValue, kept⟩ := one.still two.kept first.result_lt first.draws.le
    have le : n ≤ k' := Nat.le_trans first.draws.le second.draws.le
    show Follows _ _ _ _ _ (Run.defined (op.value a b) w₂)
    -- without a value both sides end, and with one both go on
    cases computed : op.value a b with
    | none =>
      rw [← op.execute_eq] at computed
      exact .ends (by decide)
        (step_arith_none two.rest (value_temp leftValue) (value_temp two.result) computed)
        ⟨two.agree.shows.globals, two.agree.shows.calls⟩
    | some v =>
      rw [← op.execute_eq] at computed
      exact .step (step_arith two.rest (value_temp leftValue) (value_temp two.result) computed)
        (.here (two.agree.evaluated kept le v))
  | @compare n m k' l r pos op left right cl cr first second ihLeft ihRight =>
    rw [evalExpr]
    simp only [straight_append, List.append_assoc] at rest
    refine (ihLeft agree rest).bind fun a w₁ c₁ one => ?_
    refine (ihRight one.agree one.rest).bind fun b w₂ c₂ two => ?_
    obtain ⟨leftValue, kept⟩ := one.still two.kept first.result_lt first.draws.le
    have le : n ≤ k' := Nat.le_trans first.draws.le second.draws.le
    have next : c₂.rest = .instr (.compare k' op (.temp l) (.temp r))
        :: .instr (.widen (k' + 1) k') :: k := two.rest
    -- the flag is defined first, and then widened
    have flagged : Agree holds reserved scope env w₂
        ({ c₂ with rest := .instr (.widen (k' + 1) k') :: k }.define k' (.i1 (op.execute a b))) :=
      two.agree.of_eq rfl rfl rfl
    refine .step (step_compare next (value_temp leftValue) (value_temp two.result)) ?_
    refine .step (step_widen rfl (if_pos rfl)) (.here ?_)
    rw [← op.execute_eq]
    refine flagged.evaluated (fun i below => ?_) (by omega) _
    have apart : i ≠ k' := by omega
    exact (if_neg apart).trans (kept i below)
  | @minus n m l pos operand cl inner ih =>
    rw [evalExpr]
    simp only [straight_append, List.append_assoc] at rest
    refine (ih agree rest).bind fun a w₁ c₁ one => ?_
    have stepped : step handler body c₁ = .running _ :=
      step_arith one.rest rfl (value_temp one.result) (execute_zero_sub a)
    exact .step stepped (.here (one.agree.evaluated one.kept inner.draws.le _))
  | plus _ ih =>
    rw [evalExpr]
    exact ih agree rest
  | paren _ ih =>
    rw [evalExpr]
    exact ih agree rest
  | @call n m a pos callee fn arg cl means inner ih =>
    rw [evalExpr, agree.meaning means]
    simp only [straight_append, List.append_assoc] at rest
    show Follows _ _ _ _ _ ((evalExpr handler env arg >>= fun v =>
      callFunction handler v (bindingOf holds fn)) w)
    refine (ih agree rest).bind fun v w₁ c₁ one => ?_
    exact one.agree.call one.rest one.result one.kept inner.draws.le

/-! ## §3. Several values. -/

/-- The configuration after expressions in a row. -/
structure EvaluatedAll (holds : String → Nat) (reserved : List String) (scope : Chain Key Storage)
    (env : Env) (n : Nat) (ds : List Nat) (k : List Line) (before : Config) (vs : List Word)
    (w : World) (c : Config) : Prop where
  rest : c.rest = k
  results : ds.map c.temps = vs.map fun v => some (.i32 v)
  kept : ∀ i < n, c.temps i = before.temps i
  agree : Agree holds reserved scope env w c

/-- Code of expressions computes their values from left to right. -/
theorem ExprsCode.follows {es : List Expr} {code : List Instr} {ds : List Nat}
    (h : ExprsCode scope n es code ds m) (agree : Agree holds reserved scope env w c)
    (rest : c.rest = straight code ++ k) :
    Follows handler body rounds c (EvaluatedAll holds reserved scope env n ds k c)
      (evalExprs handler env es w) := by
  induction h generalizing w c with
  | nil => exact .here ⟨rest, rfl, fun _ _ => rfl, agree⟩
  | @cons n m k' d e es ce ces ds first others ih =>
    rw [evalExprs]
    simp only [straight_append, List.append_assoc] at rest
    refine (first.follows agree rest).bind fun v w₁ c₁ one => ?_
    refine ((ih one.agree one.rest).imp fun vs w₂ c₂ all => ?_).map
    obtain ⟨value, kept⟩ := one.still all.kept first.result_lt first.draws.le
    refine ⟨all.rest, ?_, kept, all.agree⟩
    rw [List.map_cons, List.map_cons, value, all.results]

/-- Code of an initial value leaves it in an operand. -/
theorem InitialCode.follows {value : Option Expr} {code : List Instr} {operand : Operand}
    (h : InitialCode scope n value code operand m) (agree : Agree holds reserved scope env w c)
    (rest : c.rest = straight code ++ k) :
    Follows handler body rounds c (fun v w' c' => c'.rest = k ∧ c'.value operand = some v
      ∧ Agree holds reserved scope env w' c') (evalInitial handler env value w) := by
  cases h with
  | zero => exact .here ⟨rest, rfl, agree⟩
  | value code =>
    rw [evalInitial]
    refine (code.follows agree rest).imp fun v w' c' one => ?_
    exact ⟨one.rest, value_temp one.result, one.agree⟩

/-! ## §4. Tests. -/

theorem step_jump {rest rest' : List Line} {l : Label}
    (once : ∀ i, (drawn body).count i ≤ 1) (stands : (.label l :: rest) <:+ body)
    (next : c.rest = .instr (.jump l) :: rest') :
    step handler body c = .running { c with rest } := by
  rw [step_instr next]
  exact goTo_eq once stands

theorem step_branch {l l' : Label} {flag : Nat} {t : Bool} {yes no rest : List Line}
    (once : ∀ i, (drawn body).count i ≤ 1) (first : (.label l :: yes) <:+ body)
    (second : (.label l' :: no) <:+ body) (next : c.rest = .instr (.branch flag l l') :: rest)
    (found : c.temps flag = some (.i1 t)) :
    step handler body c = .running { c with rest := if t = true then yes else no } := by
  rw [step_instr next]
  simp only [perform, found]
  cases t with
  | true => exact goTo_eq once first
  | false => exact goTo_eq once second

/-- Code of a test goes to the body of its loop, or to the end. -/
theorem TestCode.follows {labels : LoopLabels} {cond : Option Expr} {code : List Instr}
    (h : TestCode scope labels n cond code m) (agree : Agree holds reserved scope env w c)
    (rest : c.rest = straight code ++ k) (once : ∀ i, (drawn body).count i ≤ 1)
    {yes no : List Line} (bodyStands : (.label labels.body :: yes) <:+ body)
    (doneStands : (.label labels.done :: no) <:+ body) :
    Follows handler body rounds c (fun goesOn w' c' => c'.rest = (if goesOn = true then yes else no)
      ∧ Agree holds reserved scope env w' c') (evalTest handler env cond w) := by
  cases h with
  | always =>
    have stepped : step handler body c = .running { c with rest := yes } :=
      step_jump once bodyStands rest
    exact .step stepped (.here ⟨rfl, agree.of_eq rfl rfl rfl⟩)
  | @value m d e ce code =>
    rw [evalTest]
    simp only [straight_append, List.append_assoc] at rest
    refine (code.follows agree rest).bind fun v w₁ c₁ one => ?_
    have next : c₁.rest = .instr (.compare m .ne (.temp d) (.const 0))
        :: .instr (.branch m labels.body labels.done) :: k := one.rest
    refine .step (step_compare next (value_temp one.result) rfl) ?_
    rw [execute_ne_zero]
    refine .step (step_branch once bodyStands doneStands rfl (if_pos rfl)) (.here ⟨rfl, ?_⟩)
    exact one.agree.of_eq rfl rfl rfl

end

end SlotIR
