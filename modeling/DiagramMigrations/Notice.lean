/-!
Notices: what a compilation tells the one who asked for it, in order.
-/

set_option autoImplicit false
set_option relaxedAutoImplicit false

namespace DiagramMigrations

/-- Whether a notice is good news. -/
inductive NoticeKind
  | info
  | error
  deriving DecidableEq, Repr

/-- A notice. -/
structure Notice where
  kind : NoticeKind
  text : String
  deriving DecidableEq, Repr

namespace Notice

/-- A notice of success. -/
def info (text : String) : Notice := ⟨.info, text⟩

/-- A notice of an error. -/
def error (text : String) : Notice := ⟨.error, text⟩

/-- The texts of the notices of a kind. -/
def textsOf (kind : NoticeKind) (notices : List Notice) : List String :=
  (notices.filter fun n ↦ n.kind = kind).map text

end Notice

end DiagramMigrations
