import DiagramMigrations.Json.Tree
import DiagramMigrations.Proofs.Except

/-!
Places in a value. A place is given by positions, the outermost first; to put something else there
changes the value there and nowhere else. What is read from a tree stands where it stands in the
tree, and changes where the tree does.
-/

set_option autoImplicit false
set_option relaxedAutoImplicit false

namespace DiagramMigrations.Json

/-- To put a value in the place of what stands at some positions of another. -/
inductive Puts (w : Json) : List Nat → Json → Json → Prop
  | here (v : Json) : Puts w [] v w
  | item {path : List Nat} {front rest : List Json} {v v' : Json} (h : Puts w path v v') :
    Puts w (front.length :: path) (.array (front ++ v :: rest)) (.array (front ++ v' :: rest))
  | member {path : List Nat} {front rest : List (String × Json)} {key : String} {v v' : Json}
    (h : Puts w path v v') : Puts w (front.length :: path) (.object (front ++ (key, v) :: rest))
      (.object (front ++ (key, v') :: rest))

/-- What stands at some positions of a value. -/
inductive At (w : Json) : List Nat → Json → Prop
  | here : At w [] w
  | item {n : Nat} {path : List Nat} {items : List Json} {v : Json} (hv : items[n]? = some v)
    (h : At w path v) : At w (n :: path) (.array items)
  | member {n : Nat} {path : List Nat} {members : List (String × Json)} {key : String} {v : Json}
    (hv : members[n]? = some (key, v)) (h : At w path v) : At w (n :: path) (.object members)

namespace Tree

/-- To put a tree in the place of what stands at some positions of another. -/
inductive Puts (y : Tree) : List Nat → Tree → Tree → Prop
  | here (t : Tree) : Puts y [] t y
  | item {path : List Nat} {front rest : List Tree} {t u : Tree} {stop : Stop}
    (h : Puts y path t u) : Puts y (front.length :: path) (.array (front ++ t :: rest) stop)
      (.array (front ++ u :: rest) stop)
  | member {path : List Nat} {front rest : List (Key × Tree)} {key : Key} {t u : Tree} {stop : Stop}
    (h : Puts y path t u) : Puts y (front.length :: path) (.object (front ++ (key, t) :: rest) stop)
      (.object (front ++ (key, u) :: rest) stop)

/-- What stands at some positions of a tree. -/
inductive At (y : Tree) : List Nat → Tree → Prop
  | here : At y [] y
  | item {n : Nat} {path : List Nat} {items : List Tree} {t : Tree} {stop : Stop}
    (ht : items[n]? = some t) (h : At y path t) : At y (n :: path) (.array items stop)
  | member {n : Nat} {path : List Nat} {members : List (Key × Tree)} {key : Key} {t : Tree}
    {stop : Stop} (ht : members[n]? = some (key, t)) (h : At y path t) :
    At y (n :: path) (.object members stop)

variable {room : Nat} {y t u : Tree} {v w : Json} {path : List Nat}

theorem values_eq_mapM (room : Nat) (items : List Tree) :
    values room items = items.mapM (value room) := by
  induction items with
  | nil => rfl
  | cons item items ih => rw [values, List.mapM_cons, ih]

/-- Reads a member. -/
def memberValue (room : Nat) (m : Key × Tree) : Except Fault (String × Json) :=
  match m.1 with
  | .ok key => (m.2.value room).map fun v ↦ (key, v)
  | .error place => .error place.read

theorem memberValues_eq_mapM (room : Nat) (members : List (Key × Tree)) :
    memberValues room members = members.mapM (memberValue room) := by
  induction members with
  | nil => rfl
  | cons m members ih =>
    obtain ⟨place | key, t⟩ := m
    · rw [memberValues, List.mapM_cons]
      rfl
    · rw [memberValues, List.mapM_cons, ih, memberValue]
      cases t.value room <;> rfl

/-- What is put into a tree is put into its value, if it does not nest too deep there. -/
theorem Puts.exists_value (h : Puts y path t u) (ht : t.value room = .ok v)
    (hy : y.value (room - path.length) = .ok w) :
    ∃ v', u.value room = .ok v' ∧ Json.Puts w path v v' := by
  induction h generalizing room v with
  | here t => exact ⟨w, hy, .here v⟩
  | @item path front rest t u stop h ih =>
    cases room with
    | zero =>
      rw [value] at ht
      cases ht
    | succ room =>
      rw [value, values_eq_mapM] at ht
      obtain ⟨items, hitems, ht⟩ := bind_eq_ok.mp ht
      obtain ⟨⟨⟩, hstop, ht⟩ := bind_eq_ok.mp ht
      obtain rfl := Except.ok.inj ht
      obtain ⟨before, v, behind, hbefore, hv, hbehind, rfl⟩ := mapM_append_cons_eq_ok.mp hitems
      rw [List.length_cons, Nat.add_sub_add_right] at hy
      obtain ⟨v', hv', hputs⟩ := ih hv hy
      refine ⟨.array (before ++ v' :: behind), ?_, ?_⟩
      · rw [value, values_eq_mapM]
        exact bind_eq_ok.mpr ⟨_, mapM_append_cons_eq_ok.mpr
          ⟨before, v', behind, hbefore, hv', hbehind, rfl⟩, bind_eq_ok.mpr ⟨(), hstop, rfl⟩⟩
      · rw [← length_of_mapM hbefore]
        exact .item hputs
  | @member path front rest key t u stop h ih =>
    cases room with
    | zero =>
      rw [value] at ht
      cases ht
    | succ room =>
      rw [value, memberValues_eq_mapM] at ht
      obtain ⟨members, hmembers, ht⟩ := bind_eq_ok.mp ht
      obtain ⟨⟨⟩, hstop, ht⟩ := bind_eq_ok.mp ht
      obtain rfl := Except.ok.inj ht
      obtain ⟨before, m, behind, hbefore, hm, hbehind, rfl⟩ := mapM_append_cons_eq_ok.mp hmembers
      rw [List.length_cons, Nat.add_sub_add_right] at hy
      cases key with
      | error place => cases hm
      | ok key =>
        obtain ⟨v, hv, rfl⟩ := map_eq_ok.mp hm
        obtain ⟨v', hv', hputs⟩ := ih hv hy
        refine ⟨.object (before ++ (key, v') :: behind), ?_, ?_⟩
        · rw [value, memberValues_eq_mapM]
          exact bind_eq_ok.mpr ⟨_, mapM_append_cons_eq_ok.mpr ⟨before, (key, v'), behind, hbefore,
            map_eq_ok.mpr ⟨v', hv', rfl⟩, hbehind, rfl⟩, bind_eq_ok.mpr ⟨(), hstop, rfl⟩⟩
        · rw [← length_of_mapM hbefore]
          exact .member hputs

/-- A value that is an array or object is that of a tree that is one, with the values of its parts.
-/
theorem value_eq_ok_cases (h : t.value room = .ok v) :
    (∀ items, v = .array items → ∃ rest ts stop, t = .array ts stop ∧
      ts.mapM (value rest) = .ok items) ∧
    ∀ members, v = .object members → ∃ rest ts stop, t = .object ts stop ∧
      ts.mapM (memberValue rest) = .ok members := by
  cases t with
  | null | boolean | broken =>
    rw [value] at h
    cases h <;> simp
  | number spelling =>
    rw [value] at h
    split at h <;> cases h
    simp
  | text content =>
    cases content <;> rw [value] at h <;> cases h
    simp
  | array ts stop =>
    cases room with
    | zero =>
      rw [value] at h
      cases h
    | succ room =>
      rw [value, values_eq_mapM] at h
      obtain ⟨items, hitems, h⟩ := bind_eq_ok.mp h
      obtain ⟨⟨⟩, -, h⟩ := bind_eq_ok.mp h
      obtain rfl := Except.ok.inj h
      refine ⟨?_, by simp⟩
      rintro found ⟨⟩
      exact ⟨room, ts, stop, rfl, hitems⟩
  | object ts stop =>
    cases room with
    | zero =>
      rw [value] at h
      cases h
    | succ room =>
      rw [value, memberValues_eq_mapM] at h
      obtain ⟨members, hmembers, h⟩ := bind_eq_ok.mp h
      obtain ⟨⟨⟩, -, h⟩ := bind_eq_ok.mp h
      obtain rfl := Except.ok.inj h
      refine ⟨by simp, ?_⟩
      rintro found ⟨⟩
      exact ⟨room, ts, stop, rfl, hmembers⟩

/-- What stands in the value of a tree stands in the tree. -/
theorem exists_at_of_value (hat : w.At path v) (h : t.value room = .ok v) :
    ∃ y : Tree, y.At path t := by
  induction hat generalizing t room with
  | here => exact ⟨t, .here⟩
  | item hv _ ih =>
    obtain ⟨rest, ts, stop, rfl, hts⟩ := (value_eq_ok_cases h).1 _ rfl
    obtain ⟨u, hu, hvalue⟩ := exists_getElem?_of_mapM hts hv
    obtain ⟨y, hy⟩ := ih hvalue
    exact ⟨y, .item hu hy⟩
  | member hv _ ih =>
    obtain ⟨rest, ts, stop, rfl, hts⟩ := (value_eq_ok_cases h).2 _ rfl
    obtain ⟨⟨key, u⟩, hu, hvalue⟩ := exists_getElem?_of_mapM hts hv
    cases key with
    | error place => cases hvalue
    | ok key =>
      obtain ⟨found, hfound, heq⟩ := map_eq_ok.mp hvalue
      obtain ⟨-, rfl⟩ := Prod.mk.inj heq
      obtain ⟨y, hy⟩ := ih hfound
      exact ⟨y, .member hu hy⟩

end Tree

end DiagramMigrations.Json
