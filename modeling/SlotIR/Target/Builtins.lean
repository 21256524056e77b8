/-
  SlotIR.Target.Builtins
  ──────────────────────
  **TEXT SHARED BY ALL EMITTED MODULES.**

  Two functions are always visible.  Every module declares them; they are
  defined by the runtime, a module of its own that is linked in.
-/
namespace SlotIR.Builtins

/-! ## §1. The builtin functions. -/

/-- The builtin functions, each with its symbol. -/
def functions : List (String × String) :=
  [("println", "@ugo_builtin_println"), ("exit", "@ugo_builtin_exit")]

/-- The declarations of the builtin functions, one on a line. -/
def declarations : String :=
  "\n".intercalate (functions.map fun builtin => "declare i32 " ++ builtin.2 ++ "(i32)")

/-- The declarations with the empty lines around them. -/
def header : String := "\n" ++ declarations ++ "\n\n"

/-! ## §2. The runtime. -/

/-- The module that defines the builtin functions. -/
def runtime : String :=
  "\n".intercalate
    [ "; ugo runtime",
      "declare i32 @printf(ptr, ...)",
      "declare void @exit(i32)",
      "",
      "@.ugo_builtin_int_fmt = private unnamed_addr constant [4 x i8] c\"%d\\0A\\00\"",
      "",
      "define i32 @ugo_builtin_println(i32 %x) \x7b",
      "\t%r = call i32 (ptr, ...) @printf(ptr @.ugo_builtin_int_fmt, i32 %x)",
      "\tret i32 0",
      "\x7d",
      "",
      "define i32 @ugo_builtin_exit(i32 %x) \x7b",
      "\tcall void @exit(i32 %x)",
      "\tret i32 0",
      "\x7d",
      "" ]

/-! ## §3. The entry point. -/

/-- The function that starts the program, without an end of its last line. -/
def entryLines (init main : String) : String :=
  "\n".intercalate
    [ "",
      "define i32 @main() \x7b",
      "\tcall i32 " ++ init ++ "()",
      "\tcall i32 " ++ main ++ "()",
      "\tret i32 0",
      "\x7d" ]

/-- The text of the function that starts the program. -/
def entryText (init main : String) : String := entryLines init main ++ "\n"

end SlotIR.Builtins
