import DiagramMigrations.Diagram.Document
import DiagramMigrations.Proofs.Diagram.Records
import DiagramMigrations.Proofs.Json.Tree

/-!
The model of a view and what a class owns, by kind. Each is a tagged record, of which nothing is
read if its kind is none that counts; and the tree of a model is read as the record that its value
is.
-/

set_option autoImplicit false
set_option relaxedAutoImplicit false

namespace DiagramMigrations.Diagram

open Json (Tree Key)

/-! ### Records of kinds that are not read -/

/-- Records of a kind that is not read. They have no fields. -/
def ignored : Shape Unit Unit where
  title := "unit variant"
  fields := []
  empty := ()
  take _ _ _ := .ok ()
  finish _ _ := .ok ()

theorem ignored_laws : ignored.Laws [] Eq where
  fills := ⟨fun _ ↦ ⟨trivial, by simp⟩, fun _ _ ↦ ⟨(), rfl⟩⟩
  empty := by simp
  finish_any h := h
  finish_same _ h := ⟨_, h, rfl⟩

section Ignored

variable {v body : Json} {tag : Tag} {title : String}

theorem isRecord_of_splitTag (h : splitTag title v = .ok (tag, body)) :
    (∃ members, body = .object members) ∨ ∃ items, body = .array items := by
  cases v with
  | null | boolean | number | text => cases h
  | object members =>
    obtain ⟨_, -, h⟩ := bind_eq_ok.mp h
    obtain ⟨_, -, h⟩ := bind_eq_ok.mp h
    exact Or.inl ⟨_, (Prod.mk.inj (Except.ok.inj h)).2.symm⟩
  | array items =>
    cases items with
    | nil => cases h
    | cons first items =>
      obtain ⟨_, -, h⟩ := bind_eq_ok.mp h
      exact Or.inr ⟨_, (Prod.mk.inj (Except.ok.inj h)).2.symm⟩

/-- A record whose kind is not read may hold anything in an object, and nothing in an array. -/
theorem read_ignored_tagged_eq_ok : ignored.tagged.read v = .ok (tag, ()) ↔
    ∃ body, splitTag title v = .ok (tag, body) ∧ readIgnored body = .ok () := by
  have hread : ignored.tagged.read v = .ok (tag, ()) ↔
      ∃ body, splitTag title v = .ok (tag, body) ∧ ignored.read body = .ok () :=
    Shape.read_tagged_eq_ok ignored_laws.finish_any (by simp [ignored])
  rw [hread]
  refine exists_congr fun body ↦ and_congr_right fun hsplit ↦ ?_
  rw [Shape.read_eq_ok ignored_laws.finish_any .missingField]
  rcases isRecord_of_splitTag hsplit with ⟨members, rfl⟩ | ⟨items, rfl⟩
  · refine iff_of_true ⟨members, (), rfl, ?_, rfl⟩ rfl
    have hempty : ∀ slot ∈ ([] : List (Slot Unit String Json Complaint)), slot.get () = none := by
      simp
    exact (ignored_laws.fills.exists_foldlM hempty (fun _ _ ↦ trivial) (by simp)).choose_spec
  · cases items with
    | nil => exact iff_of_true ⟨[], (), rfl, rfl, rfl⟩ rfl
    | cons item items => simp [membersAs, ignored, readIgnored]

end Ignored

/-! ### What a class owns -/

/-- Whether a tag is that of an association: its word, or its position in the list of kinds. -/
def Tag.IsAssociation (tag : Tag) : Prop :=
  tag = .word "association" ∨ tag = .position 0

instance : DecidablePred Tag.IsAssociation := fun _ ↦ instDecidableOr

/-- An owned element is an association or of another kind. -/
inductive Owns (v : Json) : Owned → Prop
  | association {tag : Tag} {a : Association} (htag : tag.IsAssociation)
    (hread : Association.shape.tagged.read v = .ok (tag, a)) : Owns v (.association a)
  | other {tag : Tag} (htag : ¬ tag.IsAssociation)
    (hread : ignored.tagged.read v = .ok (tag, ())) : Owns v .other

theorem readOwned_eq_ok {v : Json} {o : Owned} : readOwned v = .ok o ↔ Owns v o := by
  let split := splitTag "internally tagged enum OwnedElement" v
  have hassociation (tag : Tag) (a : Association) :
      Association.shape.tagged.read v = .ok (tag, a) ↔
        ∃ body, split = .ok (tag, body) ∧ Association.shape.read body = .ok a :=
    Shape.read_tagged_eq_ok Association.laws.finish_any (by simp [Association.shape])
  have hother (tag : Tag) : ignored.tagged.read v = .ok (tag, ()) ↔
      ∃ body, split = .ok (tag, body) ∧ readIgnored body = .ok () :=
    read_ignored_tagged_eq_ok
  constructor
  · intro h
    obtain ⟨⟨tag, body⟩, hsplit, h⟩ := bind_eq_ok.mp h
    dsimp only at h
    split_ifs at h with htag
    · obtain ⟨a, ha, h⟩ := bind_eq_ok.mp h
      obtain rfl := Except.ok.inj h
      exact .association htag ((hassociation tag a).mpr ⟨body, hsplit, ha⟩)
    · obtain ⟨⟨⟩, hbody, h⟩ := bind_eq_ok.mp h
      obtain rfl := Except.ok.inj h
      exact .other htag ((hother tag).mpr ⟨body, hsplit, hbody⟩)
  · rintro (@⟨tag, a, htag, hread⟩ | @⟨tag, htag, hread⟩)
    · obtain ⟨body, hsplit, ha⟩ := (hassociation tag a).mp hread
      exact bind_eq_ok.mpr ⟨(tag, body), hsplit, (if_pos htag).trans
        (bind_eq_ok.mpr ⟨a, ha, rfl⟩)⟩
    · obtain ⟨body, hsplit, hbody⟩ := (hother tag).mp hread
      exact bind_eq_ok.mpr ⟨(tag, body), hsplit, (if_neg htag).trans
        (bind_eq_ok.mpr ⟨(), hbody, rfl⟩)⟩

/-! ### Models -/

/-- The value of a model, by its kind. -/
inductive Models (v : Json) : Element → Prop
  | ofClass {c : Class} (hread : Class.shape.tagged.read v = .ok (.word "class", c)) :
    Models v (.ofClass c)
  | ofEnumeration {e : Enumeration}
    (hread : Enumeration.shape.tagged.read v = .ok (.word "enumeration", e)) :
    Models v (.ofEnumeration e)
  | other {kind : String} (hclass : kind ≠ "class") (henumeration : kind ≠ "enumeration")
    (hread : ignored.tagged.read v = .ok (.word kind, ())) : Models v .other

theorem models_iff {v : Json} {e : Element} : Models v e ↔ ∃ kind body,
    splitTag "internally tagged enum ModelElement" v = .ok (.word kind, body) ∧
      readElement kind body = .ok e := by
  let split := splitTag "internally tagged enum ModelElement" v
  have hclass (kind : String) (c : Class) : Class.shape.tagged.read v = .ok (.word kind, c) ↔
      ∃ body, split = .ok (.word kind, body) ∧ Class.shape.read body = .ok c :=
    Shape.read_tagged_eq_ok (Class.laws id).finish_any (by simp [Class.shape])
  have henumeration (kind : String) (e : Enumeration) :
      Enumeration.shape.tagged.read v = .ok (.word kind, e) ↔
        ∃ body, split = .ok (.word kind, body) ∧ Enumeration.shape.read body = .ok e :=
    Shape.read_tagged_eq_ok Enumeration.laws.finish_any (by simp [Enumeration.shape])
  have hother (kind : String) : ignored.tagged.read v = .ok (.word kind, ()) ↔
      ∃ body, split = .ok (.word kind, body) ∧ readIgnored body = .ok () :=
    read_ignored_tagged_eq_ok
  constructor
  · rintro (@⟨c, hread⟩ | @⟨e, hread⟩ | @⟨kind, hnoClass, hnoEnumeration, hread⟩)
    · obtain ⟨body, hsplit, hc⟩ := (hclass _ c).mp hread
      exact ⟨_, body, hsplit, bind_eq_ok.mpr ⟨c, hc, rfl⟩⟩
    · obtain ⟨body, hsplit, he⟩ := (henumeration _ e).mp hread
      exact ⟨_, body, hsplit, bind_eq_ok.mpr ⟨e, he, rfl⟩⟩
    · obtain ⟨body, hsplit, hbody⟩ := (hother kind).mp hread
      refine ⟨kind, body, hsplit, ?_⟩
      unfold readElement
      split
      · exact absurd rfl hnoClass
      · exact absurd rfl hnoEnumeration
      · exact bind_eq_ok.mpr ⟨(), hbody, rfl⟩
  · rintro ⟨kind, body, hsplit, h⟩
    unfold readElement at h
    split at h
    · obtain ⟨c, hc, h⟩ := bind_eq_ok.mp h
      obtain rfl := Except.ok.inj h
      exact .ofClass ((hclass _ c).mpr ⟨body, hsplit, hc⟩)
    · obtain ⟨e, he, h⟩ := bind_eq_ok.mp h
      obtain rfl := Except.ok.inj h
      exact .ofEnumeration ((henumeration _ e).mpr ⟨body, hsplit, he⟩)
    · rename_i hnoClass hnoEnumeration
      obtain ⟨⟨⟩, hbody, h⟩ := bind_eq_ok.mp h
      obtain rfl := Except.ok.inj h
      exact .other (fun h ↦ hnoClass h) (fun h ↦ hnoEnumeration h)
        ((hother kind).mpr ⟨body, hsplit, hbody⟩)

/-! ### The trees of models -/

section Trees

variable {room : Nat} {t : Tree} {s expected kind : String} {body : Json}

theorem readTextTree_eq_ok : readTextTree expected t = .ok s ↔ t = .text (.ok s) := by
  unfold readTextTree
  split
  · simp
  · rename_i hother
    simp only [reduceCtorEq, false_iff]
    exact fun h ↦ hother s h

theorem value_eq_text : t.value room = .ok (.text s) ↔ t = .text (.ok s) := by
  constructor
  · intro h
    cases t with
    | null | boolean | broken => rw [Tree.value] at h; cases h
    | number spelling =>
      rw [Tree.value] at h
      split at h <;> cases h
    | text content =>
      cases content with
      | error place => rw [Tree.value] at h; cases h
      | ok found =>
        rw [Tree.value] at h
        cases h
        rfl
    | array items stop =>
      cases room with
      | zero => rw [Tree.value] at h; cases h
      | succ room =>
        rw [Tree.value] at h
        obtain ⟨_, -, h⟩ := bind_eq_ok.mp h
        obtain ⟨_, -, h⟩ := bind_eq_ok.mp h
        cases h
    | object members stop =>
      cases room with
      | zero => rw [Tree.value] at h; cases h
      | succ room =>
        rw [Tree.value] at h
        obtain ⟨_, -, h⟩ := bind_eq_ok.mp h
        obtain ⟨_, -, h⟩ := bind_eq_ok.mp h
        cases h
  · rintro rfl
    rw [Tree.value]

theorem readTag_eq_word {v : Json} : readTag v = .ok (.word s) ↔ v = .text s := by
  unfold readTag
  split
  · simp
  · simp
  · rename_i hword _
    simp only [reduceCtorEq, false_iff]
    exact fun h ↦ hword s h

/-- What stands for a kind is a text, and so is its tree. -/
theorem readTextTree_iff_readTag (room : Nat) : readTextTree expected t = .ok s ↔
    ∃ v, t.value room = .ok v ∧ readTag v = .ok (.word s) := by
  simp only [readTextTree_eq_ok, readTag_eq_word]
  constructor
  · rintro rfl
    exact ⟨.text s, value_eq_text.mpr rfl, rfl⟩
  · rintro ⟨v, hv, rfl⟩
    exact value_eq_text.mp hv

/-- A tag that has been found stays. -/
theorem foldlM_takeTag_fst {ms done : List (String × Json)} {tag : Tag}
    {last : Option Tag × List (String × Json)}
    (h : ms.foldlM takeTag (some tag, done) = .ok last) : last.1 = some tag := by
  refine foldlM_keeps (p := fun state ↦ state.1 = some tag) (fun state m next hstate hnext ↦ ?_)
    rfl h
  unfold takeTag at hnext
  split_ifs at hnext
  · obtain ⟨hnone, -⟩ := fill_eq_ok.mp hnext
    rw [hstate] at hnone
    cases hnone
  · rw [← Except.ok.inj hnext]
    exact hstate

theorem readKey_eq_ok {key : Key} : readKey key = .ok s ↔ key = .ok s := by
  cases key <;> simp [readKey]

theorem memberValues_cons_eq_ok {key : Key} {members : List (Key × Tree)}
    {ms : List (String × Json)} : Tree.memberValues room ((key, t) :: members) = .ok ms ↔
      ∃ name v rest, key = .ok name ∧ t.value room = .ok v ∧
        Tree.memberValues room members = .ok rest ∧ ms = (name, v) :: rest := by
  cases key with
  | error place => simp [Tree.memberValues]
  | ok name =>
    rw [Tree.memberValues]
    constructor
    · intro h
      obtain ⟨v, hv, h⟩ := bind_eq_ok.mp h
      obtain ⟨rest, hrest, h⟩ := bind_eq_ok.mp h
      exact ⟨name, v, rest, rfl, hv, hrest, (Except.ok.inj h).symm⟩
    · rintro ⟨name', v, rest, hname, hv, hrest, rfl⟩
      obtain rfl := Except.ok.inj hname
      exact bind_eq_ok.mpr ⟨v, hv, bind_eq_ok.mpr ⟨rest, hrest, rfl⟩⟩

theorem takeKind_ok {state : Option String × List (String × Json)} (name : String) :
    takeKind room state (.ok name, t) =
      if name = "kind" then unlessRepeated name state.1 >>= fun _ ↦
        readTextTree "variant identifier" t >>= fun kind ↦ .ok (some kind, state.2)
      else liftFault (t.value room) >>= fun v ↦ .ok (state.1, state.2 ++ [(name, v)]) := rfl

/-- To separate the kind of a tree is to separate the tag of its value. -/
theorem foldlM_takeKind_iff {members : List (Key × Tree)} {state last : Option String}
    {done rest : List (String × Json)} :
    members.foldlM (takeKind room) (state, done) = .ok (last, rest) ↔
      ∃ ms, Tree.memberValues room members = .ok ms ∧
        ms.foldlM takeTag (state.map .word, done) = .ok (last.map .word, rest) := by
  have hword : Function.Injective (Option.map Tag.word) :=
    Option.map_injective fun a b h ↦ Tag.word.inj h
  induction members generalizing state done with
  | nil =>
    rw [Tree.memberValues]
    constructor
    · intro h
      obtain ⟨rfl, rfl⟩ := Prod.mk.inj (Except.ok.inj h)
      exact ⟨[], rfl, rfl⟩
    · rintro ⟨ms, hms, h⟩
      obtain rfl := Except.ok.inj hms
      obtain ⟨hstate, rfl⟩ := Prod.mk.inj (Except.ok.inj h)
      rw [hword hstate]
      rfl
  | cons m members ih =>
    obtain ⟨key, t⟩ := m
    simp only [memberValues_cons_eq_ok]
    constructor
    · intro h
      obtain ⟨next, hnext, h⟩ := bind_eq_ok.mp h
      obtain ⟨name, hname, hnext⟩ := bind_eq_ok.mp hnext
      obtain rfl := readKey_eq_ok.mp hname
      dsimp only at hnext
      split_ifs at hnext with hkey
      · obtain ⟨⟨⟩, hfree, hnext⟩ := bind_eq_ok.mp hnext
        obtain ⟨kind, hkind, hnext⟩ := bind_eq_ok.mp hnext
        obtain rfl := Except.ok.inj hnext
        obtain ⟨v, hv, htag⟩ := (readTextTree_iff_readTag room).mp hkind
        obtain ⟨ms, hms, hfold⟩ := ih.mp h
        refine ⟨(name, v) :: ms, ⟨name, v, ms, rfl, hv, hms, rfl⟩, ?_⟩
        obtain rfl : state = none := by
          cases state with
          | none => rfl
          | some _ => cases hfree
        exact bind_eq_ok.mpr ⟨_, (if_pos hkey).trans (fill_eq_ok.mpr ⟨rfl, _, htag, rfl⟩), hfold⟩
      · obtain ⟨v, hv, hnext⟩ := bind_eq_ok.mp hnext
        obtain rfl := Except.ok.inj hnext
        obtain ⟨ms, hms, hfold⟩ := ih.mp h
        exact ⟨(name, v) :: ms, ⟨name, v, ms, rfl, mapError_eq_ok.mp hv, hms, rfl⟩,
          bind_eq_ok.mpr ⟨_, takeTag_of_ne (m := (name, v)) hkey, hfold⟩⟩
    · rintro ⟨ms, ⟨name, v, ms', rfl, hv, hms, rfl⟩, h⟩
      obtain ⟨next, hnext, hfold⟩ := bind_eq_ok.mp h
      by_cases hkey : name = "kind"
      · rw [takeTag, if_pos hkey] at hnext
        obtain ⟨hfree, tag, htag, rfl⟩ := fill_eq_ok.mp hnext
        obtain rfl : state = none := by simpa using hfree
        have hlast := foldlM_takeTag_fst hfold
        obtain ⟨kind, rfl, rfl⟩ := Option.map_eq_some_iff.mp hlast
        have hread : readTextTree "variant identifier" t = .ok kind :=
          (readTextTree_iff_readTag room).mpr ⟨v, hv, htag⟩
        refine bind_eq_ok.mpr ⟨(some kind, done), ?_, ih.mpr ⟨ms', hms, hfold⟩⟩
        exact (takeKind_ok name).trans <| (if_pos hkey).trans (bind_eq_ok.mpr
          ⟨(), rfl, bind_eq_ok.mpr ⟨kind, hread, rfl⟩⟩)
      · obtain rfl := Except.ok.inj ((takeTag_of_ne (m := (name, v)) hkey).symm.trans hnext)
        refine bind_eq_ok.mpr ⟨(state, done ++ [(name, v)]), ?_, ih.mpr ⟨ms', hms, hfold⟩⟩
        exact (takeKind_ok name).trans <| (if_neg hkey).trans (bind_eq_ok.mpr
          ⟨v, mapError_eq_ok.mpr hv, rfl⟩)

theorem splitKind_eq_ok : splitKind (room + 1) t = .ok (kind, body) ↔
    ∃ v, t.value (room + 1) = .ok v ∧
      splitTag "internally tagged enum ModelElement" v = .ok (.word kind, body) := by
  cases t with
  | null | boolean | broken =>
    refine iff_of_false (fun h ↦ by cases h) ?_
    rintro ⟨v, hv, hsplit⟩
    rw [Tree.value] at hv
    cases hv <;> cases hsplit
  | number spelling =>
    refine iff_of_false (fun h ↦ by cases h) ?_
    rintro ⟨v, hv, hsplit⟩
    rw [Tree.value] at hv
    split at hv <;> cases hv
    cases hsplit
  | text content =>
    refine iff_of_false (fun h ↦ by cases h) ?_
    rintro ⟨v, hv, hsplit⟩
    cases content <;> rw [Tree.value] at hv <;> cases hv
    cases hsplit
  | object members stop =>
    rw [Tree.value]
    constructor
    · intro h
      obtain ⟨⟨found, rest⟩, hfold, h⟩ := bind_eq_ok.mp h
      obtain ⟨⟨⟩, hstop, h⟩ := bind_eq_ok.mp h
      obtain ⟨name, hname, h⟩ := bind_eq_ok.mp h
      obtain ⟨rfl, rfl⟩ := Prod.mk.inj (Except.ok.inj h)
      obtain rfl := required_eq_ok.mp (mapError_eq_ok.mp hname)
      obtain ⟨ms, hms, hfold⟩ := foldlM_takeKind_iff.mp hfold
      exact ⟨.object ms,
        bind_eq_ok.mpr ⟨ms, hms, bind_eq_ok.mpr ⟨(), mapError_eq_ok.mp hstop, rfl⟩⟩,
        bind_eq_ok.mpr ⟨_, hfold, rfl⟩⟩
    · rintro ⟨v, hv, hsplit⟩
      obtain ⟨ms, hms, hv⟩ := bind_eq_ok.mp hv
      obtain ⟨⟨⟩, hstop, hv⟩ := bind_eq_ok.mp hv
      obtain rfl := Except.ok.inj hv
      obtain ⟨⟨found, rest⟩, hfold, hsplit⟩ := bind_eq_ok.mp hsplit
      obtain ⟨tag, htag, hsplit⟩ := bind_eq_ok.mp hsplit
      obtain ⟨rfl, rfl⟩ := Prod.mk.inj (Except.ok.inj hsplit)
      obtain rfl := required_eq_ok.mp htag
      exact bind_eq_ok.mpr ⟨(some kind, rest), foldlM_takeKind_iff.mpr ⟨ms, hms, hfold⟩,
        bind_eq_ok.mpr ⟨(), mapError_eq_ok.mpr hstop, rfl⟩⟩
  | array items stop =>
    cases items with
    | nil =>
      refine iff_of_false (fun h ↦ ?_) ?_
      · obtain ⟨⟨⟩, -, h⟩ := bind_eq_ok.mp h
        cases h
      · rintro ⟨v, hv, hsplit⟩
        rw [Tree.value, Tree.values] at hv
        obtain ⟨values, hvalues, hv⟩ := bind_eq_ok.mp hv
        obtain ⟨⟨⟩, -, hv⟩ := bind_eq_ok.mp hv
        cases hvalues
        cases hv
        cases hsplit
    | cons first items =>
      rw [Tree.value]
      constructor
      · intro h
        obtain ⟨found, hfound, h⟩ := bind_eq_ok.mp h
        obtain ⟨rest, hrest, h⟩ := bind_eq_ok.mp h
        obtain ⟨⟨⟩, hstop, h⟩ := bind_eq_ok.mp h
        obtain ⟨rfl, rfl⟩ := Prod.mk.inj (Except.ok.inj h)
        obtain ⟨v, hv, htag⟩ := (readTextTree_iff_readTag room).mp hfound
        have hvalues : Tree.values room (first :: items) = .ok (v :: rest) := by
          rw [Tree.values]
          exact bind_eq_ok.mpr ⟨v, hv, bind_eq_ok.mpr ⟨rest, mapError_eq_ok.mp hrest, rfl⟩⟩
        exact ⟨.array (v :: rest), bind_eq_ok.mpr ⟨_, hvalues,
          bind_eq_ok.mpr ⟨(), mapError_eq_ok.mp hstop, rfl⟩⟩, bind_eq_ok.mpr ⟨_, htag, rfl⟩⟩
      · rintro ⟨v, hv, hsplit⟩
        obtain ⟨values, hvalues, hv⟩ := bind_eq_ok.mp hv
        obtain ⟨⟨⟩, hstop, hv⟩ := bind_eq_ok.mp hv
        obtain rfl := Except.ok.inj hv
        rw [Tree.values] at hvalues
        obtain ⟨u, hu, hvalues⟩ := bind_eq_ok.mp hvalues
        obtain ⟨rest, hrest, hvalues⟩ := bind_eq_ok.mp hvalues
        obtain rfl := Except.ok.inj hvalues
        obtain ⟨tag, htag, hsplit⟩ := bind_eq_ok.mp hsplit
        obtain ⟨rfl, rfl⟩ := Prod.mk.inj (Except.ok.inj hsplit)
        exact bind_eq_ok.mpr ⟨kind, (readTextTree_iff_readTag room).mpr ⟨u, hu, htag⟩,
          bind_eq_ok.mpr ⟨rest, mapError_eq_ok.mpr hrest,
            bind_eq_ok.mpr ⟨(), mapError_eq_ok.mpr hstop, rfl⟩⟩⟩

/-- The model of a view is read as the record that its value is. -/
theorem readModel_eq_ok {e : Element} : readModel t = .ok e ↔
    ∃ v, t.value modelRoom = .ok v ∧ Models v e := by
  obtain ⟨room, hroom⟩ : ∃ room, modelRoom = room + 1 := ⟨_, rfl⟩
  simp only [models_iff, readModel, hroom]
  constructor
  · intro h
    obtain ⟨⟨kind, body⟩, hsplit, h⟩ := bind_eq_ok.mp h
    obtain ⟨v, hv, hsplit⟩ := splitKind_eq_ok.mp hsplit
    exact ⟨v, hv, kind, body, hsplit, mapError_eq_ok.mp h⟩
  · rintro ⟨v, hv, kind, body, hsplit, h⟩
    exact bind_eq_ok.mpr ⟨(kind, body), splitKind_eq_ok.mpr ⟨v, hv, hsplit⟩,
      mapError_eq_ok.mpr h⟩

end Trees

end DiagramMigrations.Diagram
