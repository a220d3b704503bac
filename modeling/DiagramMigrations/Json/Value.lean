import DiagramMigrations.Json.Number

/-!
JSON values. An object keeps its members in the order they are written, repeated keys included; the
canonical form sorts them by key and keeps the last of equal keys.
-/

set_option autoImplicit false
set_option relaxedAutoImplicit false

namespace DiagramMigrations

/-- A JSON value. -/
inductive Json
  | null
  | boolean (value : Bool)
  | number (value : Json.Number)
  | text (value : String)
  | array (items : List Json)
  | object (members : List (String × Json))
  deriving Repr

namespace Json

mutual

/-- Whether two values are the same. -/
def same : Json → Json → Bool
  | .null, .null => true
  | .boolean a, .boolean b => a == b
  | .number a, .number b => decide (a = b)
  | .text a, .text b => a == b
  | .array a, .array b => sameItems a b
  | .object a, .object b => sameMembers a b
  | _, _ => false

/-- Whether two lists of values are the same. -/
def sameItems : List Json → List Json → Bool
  | [], [] => true
  | x :: xs, y :: ys => same x y && sameItems xs ys
  | _, _ => false

/-- Whether two lists of members are the same, keys and order included. -/
def sameMembers : List (String × Json) → List (String × Json) → Bool
  | [], [] => true
  | (k, x) :: xs, (l, y) :: ys => k == l && same x y && sameMembers xs ys
  | _, _ => false

end

mutual

theorem eq_of_same : ∀ {a b : Json}, same a b = true → a = b
  | .null, b, h => by cases b <;> simp_all [same]
  | .boolean _, b, h => by cases b <;> simp_all [same]
  | .number _, b, h => by cases b <;> simp_all [same]
  | .text _, b, h => by cases b <;> simp_all [same]
  | .array _, b, h => by
    cases b <;> simp_all [same]
    exact eq_of_sameItems h
  | .object _, b, h => by
    cases b <;> simp_all [same]
    exact eq_of_sameMembers h

theorem eq_of_sameItems : ∀ {a b : List Json}, sameItems a b = true → a = b
  | [], b, h => by cases b <;> simp_all [sameItems]
  | _ :: _, b, h => by
    cases b <;> simp_all [sameItems]
    exact ⟨eq_of_same h.1, eq_of_sameItems h.2⟩

theorem eq_of_sameMembers : ∀ {a b : List (String × Json)}, sameMembers a b = true → a = b
  | [], b, h => by cases b <;> simp_all [sameMembers]
  | (_, _) :: _, [], h => by simp [sameMembers] at h
  | (_, _) :: _, (_, _) :: _, h => by
    simp only [sameMembers, Bool.and_eq_true, beq_iff_eq] at h
    rw [h.1.1, eq_of_same h.1.2, eq_of_sameMembers h.2]

end

mutual

theorem same_self : ∀ a : Json, same a a = true
  | .null | .boolean _ | .number _ | .text _ => by simp [same]
  | .array items => by simp [same, sameItems_self items]
  | .object members => by simp [same, sameMembers_self members]

theorem sameItems_self : ∀ a : List Json, sameItems a a = true
  | [] => by simp [sameItems]
  | x :: xs => by simp [sameItems, same_self x, sameItems_self xs]

theorem sameMembers_self : ∀ a : List (String × Json), sameMembers a a = true
  | [] => by simp [sameMembers]
  | (_, x) :: xs => by simp [sameMembers, same_self x, sameMembers_self xs]

end

instance : DecidableEq Json := fun a b ↦
  if h : same a b then isTrue (eq_of_same h) else isFalse fun e ↦ h (e ▸ same_self a)

/-- Puts a member into a list sorted by key, in place of one with the same key. -/
def insertMember (key : String) (value : Json) : List (String × Json) → List (String × Json)
  | [] => [(key, value)]
  | (k, v) :: rest =>
    if key < k then (key, value) :: (k, v) :: rest
    else if key = k then (key, value) :: rest
    else (k, v) :: insertMember key value rest

mutual

/-- The value with the members of every object sorted by key, and the last one kept of several with
one key. -/
def canonical : Json → Json
  | .array items => .array (canonicalItems items)
  | .object members => .object (canonicalMembers members [])
  | value => value

/-- The canonical forms of the elements. -/
def canonicalItems : List Json → List Json
  | [] => []
  | item :: rest => canonical item :: canonicalItems rest

/-- Puts the canonical forms of the members into a sorted list, one after the other. -/
def canonicalMembers : List (String × Json) → List (String × Json) → List (String × Json)
  | [], sorted => sorted
  | (key, value) :: rest, sorted =>
    canonicalMembers rest (insertMember key (canonical value) sorted)

end

end Json

end DiagramMigrations
