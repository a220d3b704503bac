import DiagramMigrations.Proofs.Diagram.FieldValues
import DiagramMigrations.Proofs.Diagram.Views
import DiagramMigrations.Proofs.Json.Occurrences

/-!
Fields that are read from any value. Where such a field has another value in a document, whatever
that is, the document is still read. The diagram has the field set to what the value is read as, and
all else is as before.
-/

set_option autoImplicit false
set_option relaxedAutoImplicit false

namespace DiagramMigrations.Diagram

open Json (Key Puts Stop Tree)

/-! ### What a class owns -/

/-- What a class owns, with an association changed. -/
def Owned.modifyAssociation (f : Association → Association) : Owned → Owned
  | association a => association (f a)
  | other => other

/-- A value in an association. -/
theorem Owned.sets_association {w : Json} {places : Places Json} {f : Association → Association}
    (h : Sets w Association.shape.tagged.read places fun x ↦ (x.1, f x.2)) :
    Sets w readOwned (inKind Tag.IsAssociation places) (modifyAssociation f) := by
  rintro path v v' o ⟨⟨tag, body, hsplit, htag⟩, hplace⟩ hputs hread
  rcases readOwned_eq_ok.mp hread with @⟨tag', a, htag', ha⟩ | @⟨tag', hother, hignored⟩
  · exact readOwned_eq_ok.mpr (.association htag' (h _ _ _ _ hplace hputs ha))
  · obtain ⟨body', hsplit'⟩ := exists_splitTag_of_read ignored_laws (by simp [ignored]) hignored
    obtain ⟨rfl, -⟩ := Prod.mk.inj (Except.ok.inj (hsplit.symm.trans hsplit'))
    exact absurd htag hother

/-! ### Elements -/

/-- The fields of an element that are read from any value, with their positions. -/
inductive ElementField
  | classification
  | ofAttribute (position : Nat) (field : AttributeField)
  | nameOfEnd (position : Nat) (side : Side)
  | documentationOfLiteral (position : Nat)
  deriving DecidableEq, Repr

/-- The places of such a field in the value of a model. -/
def ElementField.places : ElementField → Places Json
  | classification =>
    inKind (fun tag ↦ tag = .word "class") <|
      inMember (membersAs Class.shape.tagged.fields) "classification" here
  | ofAttribute position field =>
    inKind (fun tag ↦ tag = .word "class") <|
      inMember (membersAs Class.shape.tagged.fields) "attributes" <| inItem position <|
      inMember (membersAs Attribute.shape.fields) field.key here
  | nameOfEnd position side =>
    inKind (fun tag ↦ tag = .word "class") <|
      inMember (membersAs Class.shape.tagged.fields) "ownedElements" <| inItem position <|
      inKind Tag.IsAssociation <|
      inMember (membersAs Association.shape.tagged.fields) side.key <|
      inMember (membersAs End.shape.fields) "name" here
  | documentationOfLiteral position =>
    inKind (fun tag ↦ tag = .word "enumeration") <|
      inMember (membersAs Enumeration.shape.tagged.fields) "literals" <| inItem position <|
      inMember (membersAs Literal.shape.fields) "documentation" here

namespace Element

/-- An element with its class changed. -/
def modifyClass (f : Class → Class) : Element → Element
  | ofClass c => ofClass (f c)
  | ofEnumeration e => ofEnumeration e
  | other => other

/-- An element with its enumeration changed. -/
def modifyEnumeration (f : Enumeration → Enumeration) : Element → Element
  | ofClass c => ofClass c
  | ofEnumeration e => ofEnumeration (f e)
  | other => other

/-- An element with a field set to what is read from a value. -/
def set (w : Json) : ElementField → Element → Element
  | .classification => modifyClass (Class.setClassification w)
  | .ofAttribute position field =>
    modifyClass <| Class.modifyAttributes fun attributes ↦
      attributes.modify position (Attribute.set field w)
  | .nameOfEnd position side =>
    modifyClass <| Class.modifyOwned fun owned ↦ owned.modify position <|
      Owned.modifyAssociation <| Association.modifyEnd side (End.setName w)
  | .documentationOfLiteral position =>
    modifyEnumeration <| Enumeration.modifyLiterals fun literals ↦
      literals.modify position (Literal.setDocumentation w)

end Element

section Models

variable {w v v' : Json} {path : List Nat} {places : Places Json} {e : Element}

/-- A model has the kind of what it is. -/
theorem Models.tag_eq {tag : Tag} {body : Json} (h : Models v e)
    (hsplit : splitTag "" v = .ok (tag, body)) :
    (tag = .word "class" ↔ ∃ c, e = .ofClass c) ∧
      (tag = .word "enumeration" ↔ ∃ enumeration, e = .ofEnumeration enumeration) := by
  have htag {found : Tag} (h : ∃ body, splitTag "" v = .ok (found, body)) : tag = found := by
    obtain ⟨body', hsplit'⟩ := h
    exact (Prod.mk.inj (Except.ok.inj (hsplit.symm.trans hsplit'))).1
  cases h with
  | ofClass hread =>
    obtain rfl := htag (exists_splitTag_of_read (Class.laws id) (by simp [Class.shape]) hread)
    simp
  | ofEnumeration hread =>
    obtain rfl :=
      htag (exists_splitTag_of_read Enumeration.laws (by simp [Enumeration.shape]) hread)
    simp
  | other hclass henumeration hread =>
    obtain rfl := htag (exists_splitTag_of_read ignored_laws (by simp [ignored]) hread)
    simp [hclass, henumeration]

/-- A value in a class. -/
theorem Models.class_of_puts {f : Class → Class}
    (hsets : Sets w Class.shape.tagged.read places fun x ↦ (x.1, f x.2)) (h : Models v e)
    (hplace : inKind (fun tag ↦ tag = .word "class") places v path) (hputs : Puts w path v v') :
    Models v' (e.modifyClass f) := by
  obtain ⟨⟨tag, body, hsplit, hclass⟩, hplace⟩ := hplace
  obtain ⟨c, rfl⟩ := (h.tag_eq hsplit).1.mp hclass
  cases h with
  | ofClass hread => exact .ofClass (hsets _ _ _ _ hplace hputs hread)

/-- A value in an enumeration. -/
theorem Models.enumeration_of_puts {f : Enumeration → Enumeration}
    (hsets : Sets w Enumeration.shape.tagged.read places fun x ↦ (x.1, f x.2)) (h : Models v e)
    (hplace : inKind (fun tag ↦ tag = .word "enumeration") places v path)
    (hputs : Puts w path v v') : Models v' (e.modifyEnumeration f) := by
  obtain ⟨⟨tag, body, hsplit, henumeration⟩, hplace⟩ := hplace
  obtain ⟨c, rfl⟩ := (h.tag_eq hsplit).2.mp henumeration
  cases h with
  | ofEnumeration hread => exact .ofEnumeration (hsets _ _ _ _ hplace hputs hread)

/-- A field of a model that is read from any value. -/
theorem Models.set_of_puts (field : ElementField) (h : Models v e) (hplace : field.places v path)
    (hputs : Puts w path v v') : Models v' (e.set w field) := by
  cases field with
  | classification => exact h.class_of_puts (Class.sets_classification w) hplace hputs
  | ofAttribute position field =>
    have hattribute := (Attribute.sets_field field w).item position
    exact h.class_of_puts (Class.sets_attributes hattribute) hplace hputs
  | nameOfEnd position side =>
    have howned := (Owned.sets_association (Association.sets_end side (End.sets_name w))).item
      position
    exact h.class_of_puts (Class.sets_owned howned) hplace hputs
  | documentationOfLiteral position =>
    have hliteral := (Literal.sets_documentation w).item position
    exact h.enumeration_of_puts (Enumeration.sets_literals hliteral) hplace hputs

end Models

/-! ### Fields of a document -/

/-- A field of a diagram that is read from any value: the position of its element, and the field of
the element. -/
structure Field where
  element : Nat
  field : ElementField
  deriving DecidableEq, Repr

/-- A diagram with a field set to what is read from a value. -/
def set (d : Diagram) (F : Field) (w : Json) : Diagram :=
  { d with elements := d.elements.modify F.element (Element.set w F.field) }

/-- Places in the value of a model. -/
def inModel (inside : Places Json) : Places Tree :=
  fun t path ↦ ∃ v, t.value modelRoom = .ok v ∧ inside v path

/-- Places in the view of a diagram at a position. -/
def inView (position : Nat) (inside : Places Tree) : Places Tree :=
  fun t path ↦ ∃ views rest u, t = .array views .closed ∧ path = position :: rest ∧
    views[position]? = some u ∧ inside u rest

/-- The places of a field in the tree of a document. -/
def Field.places (F : Field) : Places Tree :=
  inMember (treeMembersAs ["name", "views"]) (.ok "views") <| inView F.element <|
    inMember (treeMembersAs ["model"]) (.ok "model") <| inModel F.field.places

/-- Whether to put a tree in some places changes what is read by a function, if the tree has a value
in the room that is left. -/
def TreeSets {α : Type} (w : Json) (y : Tree) (room : Nat) (read : Tree → Except ReadError α)
    (places : Places Tree) (f : α → α) : Prop :=
  ∀ path t u x, places t path → Tree.Puts y path t u →
    y.value (room - path.length) = .ok w → read t = .ok x → read u = .ok (f x)

section Trees

variable {w : Json} {y t u : Tree} {path : List Nat} {room : Nat} {names : List String}
  {ms : List (Key × Tree)} {places : Places Tree}

/-- What is put into a member of a record leaves its other members as they are. -/
theorem exists_treeMembers_of_puts {n : Nat} {key : Key} (hms : treeMembersAs names t = some ms)
    {a : Tree} (ha : ms[n]? = some (key, a)) (hputs : Tree.Puts y (n :: path) t u) :
    ∃ front others b, ms = front ++ (key, a) :: others ∧
      treeMembersAs names u = some (front ++ (key, b) :: others) ∧ Tree.Puts y path a b := by
  cases hputs with
  | @member _ front rest name a' b _ hputs =>
    obtain ⟨rfl, rfl⟩ := treeMembersAs_object.mp hms
    obtain ⟨rfl, rfl⟩ : name = key ∧ a' = a := by simpa using ha
    exact ⟨front, rest, b, rfl, rfl, hputs⟩
  | @item _ front rest a' b _ hputs =>
    obtain ⟨rfl, hlength, rfl⟩ := treeMembersAs_array.mp hms
    have hkeys : (front ++ a' :: rest).length ≤
        (names.map (Except.ok : String → Key)).length := by
      rwa [List.length_map]
    obtain ⟨name, pairs, others, -, hpairs, hzip⟩ := zip_append_cons hkeys
    rw [hzip, ← hpairs] at ha
    obtain ⟨rfl, rfl⟩ : name = key ∧ a' = a := by simpa using ha
    have hlength' : (front ++ b :: rest).length ≤ names.length := by
      rwa [List.length_append, List.length_cons] at hlength ⊢
    exact ⟨pairs, others, b, hzip a', treeMembersAs_array.mpr ⟨rfl, hlength', hzip b⟩, hputs⟩

theorem treeSets_readModel (field : ElementField) :
    TreeSets w y modelRoom readModel (inModel field.places) (Element.set w field) := by
  rintro path t u e ⟨v, hv, hplace⟩ hputs hy hread
  obtain ⟨v₀, hv₀, hmodels⟩ := readModel_eq_ok.mp hread
  obtain rfl : v₀ = v := Except.ok.inj (hv₀.symm.trans hv)
  obtain ⟨v', hv', hvalue⟩ := hputs.exists_value hv hy
  exact readModel_eq_ok.mpr ⟨v', hv', hmodels.set_of_puts field hplace hvalue⟩

theorem treeSets_readView {f : Element → Element} (h : TreeSets w y room readModel places f) :
    TreeSets w y (room + 1) readView (inMember (treeMembersAs ["model"]) (.ok "model") places)
      f := by
  rintro path t u e ⟨ms, n, rest, a, hms, rfl, ha, hplace⟩ hputs hy hread
  obtain ⟨ms', hms', haccepts, hmodel⟩ := readView_eq_ok.mp hread
  obtain rfl : ms' = ms := Option.some.inj (hms'.symm.trans hms)
  obtain ⟨front, others, b, rfl, hns, hinside⟩ := exists_treeMembers_of_puts hms ha hputs
  obtain ⟨⟨e', he', heq⟩, hchange⟩ := hmodel.change (w := b) (takes_treeSlot.mpr rfl)
  obtain rfl := Option.some.inj heq
  rw [List.length_cons, Nat.add_sub_add_right] at hy
  exact readView_eq_ok.mpr ⟨_, hns, accepts_change List.mem_cons_self haccepts,
    hchange _ (h _ _ _ _ hplace hinside hy he')⟩

theorem treeSets_readViews {f : Element → Element} (h : TreeSets w y room readView places f)
    (position : Nat) : TreeSets w y (room + 1) readViews (inView position places)
      fun es ↦ es.modify position f := by
  rintro path t u es ⟨views, rest, a, rfl, rfl, ha, hplace⟩ hputs hy hread
  obtain ⟨views', htree, hread⟩ := readViews_eq_ok.mp hread
  obtain ⟨rfl, -⟩ := Tree.array.inj htree
  rw [List.length_cons, Nat.add_sub_add_right] at hy
  cases hputs with
  | @item _ front behind a' b _ hputs =>
    obtain rfl : a' = a := by simpa using ha
    obtain ⟨before, e, after, hbefore, he, hafter, rfl⟩ := mapM_append_cons_eq_ok.mp hread
    have hmodify : (before ++ e :: after).modify front.length f = before ++ f e :: after := by
      rw [← length_of_mapM hbefore, modify_append_cons]
    exact readViews_eq_ok.mpr ⟨_, rfl, mapM_append_cons_eq_ok.mpr
      ⟨before, f e, after, hbefore, h _ _ _ _ hplace hputs hy he, hafter, hmodify⟩⟩

theorem treeSets_readDiagram {f : List Element → List Element}
    (h : TreeSets w y room readViews places f) :
    TreeSets w y (room + 1) readDiagram
      (inMember (treeMembersAs ["name", "views"]) (.ok "views") places)
      fun d ↦ { d with elements := f d.elements } := by
  rintro path t u d ⟨ms, n, rest, a, hms, rfl, ha, hplace⟩ hputs hy hread
  obtain ⟨ms', name, elements, hms', haccepts, hname, hviews, rfl⟩ := readDiagram_eq_ok.mp hread
  obtain rfl : ms' = ms := Option.some.inj (hms'.symm.trans hms)
  obtain ⟨front, others, b, rfl, hns, hinside⟩ := exists_treeMembers_of_puts hms ha hputs
  obtain ⟨⟨es, hes, heq⟩, hchange⟩ := hviews.change (w := b) (takes_treeSlot.mpr rfl)
  obtain rfl : elements = some es := heq
  rw [List.length_cons, Nat.add_sub_add_right] at hy
  have hname' := hname.change_of_not (w := b) (by simp [nameSlot, treeSlot, Except.toOption])
  exact readDiagram_eq_ok.mpr ⟨_, name, _, hns, accepts_change (by simp) haccepts, hname',
    hchange _ (h _ _ _ _ hplace hinside hy hes), rfl⟩

/-- A field of a document that is read from any value. -/
theorem treeSets_set (F : Field) :
    TreeSets w y Json.nestingLimit readDiagram F.places fun d ↦ d.set F w :=
  treeSets_readDiagram (treeSets_readViews (treeSets_readView (treeSets_readModel F.field))
    F.element)

/-! ### Trees that are whole -/

theorem isClosed_of_value {v : Json} (h : t.value room = .ok v) : t.IsClosed := by
  cases t with
  | null | boolean | number => trivial
  | text content =>
    cases content with
    | ok => trivial
    | error => cases h
  | broken => cases h
  | array items stop =>
    cases room with
    | zero => cases h
    | succ room =>
      obtain ⟨_, -, h⟩ := bind_eq_ok.mp (Tree.value.eq_def .. ▸ h)
      obtain ⟨⟨⟩, hstop, -⟩ := bind_eq_ok.mp h
      exact arrayFault?_eq_none.mp (orFault_eq_ok.mp hstop)
  | object members stop =>
    cases room with
    | zero => cases h
    | succ room =>
      obtain ⟨_, -, h⟩ := bind_eq_ok.mp (Tree.value.eq_def .. ▸ h)
      obtain ⟨⟨⟩, hstop, -⟩ := bind_eq_ok.mp h
      exact objectFault?_eq_none.mp (orFault_eq_ok.mp hstop)

theorem isClosed_of_treeMembersAs (h : treeMembersAs names t = some ms) : t.IsClosed := by
  cases t with
  | object members stop => exact (treeMembersAs_object.mp h).1
  | array items stop => exact (treeMembersAs_array.mp h).1
  | null | boolean | number | text | broken => cases h

end Trees

/-! ### Where the fields stand -/

/-- Whether something stands at each of some places. -/
def Places.AreThere (places : Places Json) : Prop :=
  ∀ v path, places v path → ∃ w : Json, w.At path v

section Occurrences

variable {names : List String} {key : String} {places : Places Json} {n : Nat} {v u : Json}
  {ms : List (String × Json)} {path : List Nat}

theorem areThere_here : Places.AreThere here := by
  rintro v path rfl
  exact ⟨v, .here⟩

theorem at_of_membersAs {w : Json} (hms : membersAs names v = some ms) (hu : ms[n]? = some (key, u))
    (h : w.At path u) : w.At (n :: path) v := by
  cases v with
  | null | boolean | number | text => cases hms
  | object members =>
    obtain rfl := Option.some.inj hms
    exact .member hu h
  | array items =>
    rw [membersAs] at hms
    split_ifs at hms
    obtain rfl := Option.some.inj hms
    exact .item (List.getElem?_zip_eq_some.mp hu).2 h

theorem Places.AreThere.inMember (h : places.AreThere) :
    Places.AreThere (inMember (membersAs names) key places) := by
  rintro v path ⟨ms, n, rest, u, hms, rfl, hu, hplace⟩
  obtain ⟨w, hw⟩ := h u rest hplace
  exact ⟨w, at_of_membersAs hms hu hw⟩

theorem Places.AreThere.inItem (h : places.AreThere) (n : Nat) :
    Places.AreThere (inItem n places) := by
  rintro v path ⟨items, rest, u, rfl, rfl, hu, hplace⟩
  obtain ⟨w, hw⟩ := h u rest hplace
  exact ⟨w, .item hu hw⟩

theorem Places.AreThere.inKind {kind : Tag → Prop} (h : places.AreThere) :
    Places.AreThere (inKind kind places) :=
  fun v path hplace ↦ h v path hplace.2

theorem ElementField.areThere (field : ElementField) : field.places.AreThere := by
  cases field with
  | classification => exact areThere_here.inMember.inKind
  | ofAttribute n => exact ((areThere_here.inMember.inItem n).inMember).inKind
  | nameOfEnd n =>
    exact ((areThere_here.inMember.inMember.inKind.inItem n).inMember).inKind
  | documentationOfLiteral n => exact ((areThere_here.inMember.inItem n).inMember).inKind

theorem at_of_treeMembersAs {y t a : Tree} {k : Key} {members : List (Key × Tree)}
    (hms : treeMembersAs names t = some members) (ha : members[n]? = some (k, a))
    (h : y.At path a) : y.At (n :: path) t := by
  cases t with
  | null | boolean | number | text | broken => cases hms
  | object found stop =>
    obtain ⟨rfl, rfl⟩ := treeMembersAs_object.mp hms
    exact .member ha h
  | array items stop =>
    obtain ⟨rfl, -, rfl⟩ := treeMembersAs_array.mp hms
    exact .item (List.getElem?_zip_eq_some.mp ha).2 h

/-- Each field that is read from any value stands somewhere in the text that it is read from. -/
theorem exists_occurrence_of_field {text : String} {F : Field} {d : Diagram}
    (hd : parse text = .ok d) (hplace : F.places (Tree.ofText text).1 path) :
    Nonempty (Json.Occurrence text path) := by
  obtain ⟨hread, hmore⟩ := parse_eq_ok.mp hd
  obtain ⟨ms, -, -, hms, -⟩ := readDiagram_eq_ok.mp hread
  obtain ⟨ms', n, inViews, views, hms', rfl, hviews, hplace⟩ := hplace
  obtain ⟨items, inView, view, rfl, rfl, hview, hplace⟩ := hplace
  obtain ⟨members, i, inModel, model, hmembers, rfl, hmodel, v, hv, hfield⟩ := hplace
  obtain ⟨w, hw⟩ := F.field.areThere v inModel hfield
  obtain ⟨y, hy⟩ := Tree.exists_at_of_value hw hv
  have hat := at_of_treeMembersAs hms' hviews (.item hview (at_of_treeMembersAs hmembers hmodel hy))
  obtain ⟨place, -⟩ := Json.exists_occurrence ⟨hmore, isClosed_of_treeMembersAs hms⟩ hat
  exact ⟨place⟩

end Occurrences

/-! ### Texts -/

/-- A field that is read from any value stands somewhere in the text that it is read from; and where
it has another value there, the text is still read, and what is read differs in that field alone. -/
theorem parse_replace {text new : String} {path : List Nat} {F : Field} {d : Diagram} {w : Json}
    (hd : parse text = .ok d) (hplace : F.places (Tree.ofText text).1 path)
    (hend : (Tree.ofText new).2 = false)
    (hnew : (Tree.ofText new).1.value (Json.nestingLimit - path.length) = .ok w) :
    Nonempty (Json.Occurrence text path) ∧
      ∀ place : Json.Occurrence text path, parse (place.replace new) = .ok (d.set F w) := by
  refine ⟨exists_occurrence_of_field hd hplace, fun place ↦ ?_⟩
  obtain ⟨hread, hmore⟩ := parse_eq_ok.mp hd
  obtain ⟨ms, -, -, hms, -⟩ := readDiagram_eq_ok.mp hread
  obtain ⟨u, hu, hputs⟩ := place.exists_ofText_replace ⟨hend, isClosed_of_value hnew⟩
    (Prod.ext rfl hmore) (isClosed_of_treeMembersAs hms)
  rw [parse_eq_ok, hu]
  exact ⟨treeSets_set F _ _ _ _ hplace hputs hnew hread, rfl⟩

/-- A document that shows a class with one attribute, with a text for the type of that. Each record
is an array of its fields. -/
def priceList (type : String) : String :=
  "[\"\",[[[\"class\",\"i\",\"items\",\"\",[[\"price\"," ++ type ++ "]]]]]]"

/-- A witness: an array in the place of the name of a type. -/
theorem parse_priceList : ∃ d, parse (priceList "\"int\"") = .ok d ∧
    parse (priceList "[null]") = .ok (d.set ⟨0, .ofAttribute 0 .type⟩ (.array [.null])) := by
  let place : Json.Occurrence (priceList "\"int\"") [1, 0, 0, 4, 0, 1] := {
    before := "[\"\",[[[\"class\",\"i\",\"items\",\"\",[[\"price\","
    value := "\"int\""
    after := "]]]]]]"
    text_eq := rfl
    begins := by decide
    whole := ⟨by decide, trivial⟩
    ends := by simp [Json.Delimits] }
  let model : Json := .array [.text "class", .text "i", .text "items", .text "",
    .array [.array [.text "price", .text "int"]]]
  let document : Json := .array [.text "", .array [.array [model]]]
  have htree : Tree.ofText (priceList "\"int\"") = (document.tree, false) := rfl
  let price : Attribute := { name := "price", declaredType := .name "int" }
  let items : Class := { id := "i", name := "items", attributes := [price] }
  have hd : parse (priceList "\"int\"") = .ok { elements := [.ofClass items] } := by
    rw [parse_eq_ok, htree]
    exact ⟨rfl, rfl⟩
  have hmodel : (ElementField.ofAttribute 0 .type).places model [4, 0, 1] :=
    ⟨⟨_, _, rfl, rfl⟩, _, 4, _, _, rfl, rfl, rfl, _, _, _, rfl, rfl, rfl, _, 1, _, _, rfl, rfl,
      rfl, rfl⟩
  have hplace : Field.places ⟨0, .ofAttribute 0 .type⟩ (Tree.ofText (priceList "\"int\"")).1
      [1, 0, 0, 4, 0, 1] := by
    rw [htree]
    exact ⟨_, 1, _, _, rfl, rfl, rfl, _, _, _, rfl, rfl, rfl, _, 0, _, _, rfl, rfl, rfl, model,
      rfl, hmodel⟩
  have hend : (Tree.ofText "[null]").2 = false := by decide
  have hnew : (Tree.ofText "[null]").1.value
      (Json.nestingLimit - [1, 0, 0, 4, 0, 1].length) = .ok (.array [.null]) := rfl
  obtain ⟨-, hreplace⟩ := parse_replace hd hplace hend hnew
  exact ⟨_, hd, hreplace place⟩

end DiagramMigrations.Diagram
