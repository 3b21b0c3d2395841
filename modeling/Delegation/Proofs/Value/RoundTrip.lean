import Delegation.Proofs.Json.Documents
import Delegation.Value.Json
import Mathlib.Data.List.Forall2
/-!
# Values are read back from their JSON text

A value is restored from its text, and from any other spelling of it: the fields of a tensor in the
other order, nothing as an object with a null field, white space around the whole.  Two things are
asked of the value.  Its lists are not nested so deep that the reader gives up, and the shortest
text of each floating-point number in it is read as that number again; the reader rounds more than
once, so this is not so for all of them.  Strings, integers and tensors are free, and the data of a
tensor need not match its shape.

The proof has two halves.  Every spelling is legible, so its document is read back from its text;
and the document of a spelling has the value that it spells.  Both are inductions along the
spelling.
-/

namespace Delegation

open Json (Legible Blank Numeral legible_ofFields mapM_map_of_inverse)

/-! ### Floating-point numbers -/

/-- The text of a number is read as that number, which is finite then. -/
def Double.Restored (x : Double) : Prop :=
  (Json.parse (Json.ofDouble x).compact).bind Json.asDouble? = some x

/-- The text of a number is read as that number, which is finite then. -/
def Single.Restored (x : Single) : Prop :=
  (Json.parse (Json.ofSingle x).compact).bind Json.asSingle? = some x

instance (x : Double) : Decidable x.Restored :=
  inferInstanceAs (Decidable (_ = _))

instance (x : Single) : Decidable x.Restored :=
  inferInstanceAs (Decidable (_ = _))

/-- What is read from the text of a floating-point number is what its document is used as. -/
lemma legible_of_restored {α : Type} {read : Json → Option α} {l : NumberLayout}
    {f : BinaryFormat} {v : BinaryValue} {j : Json}
    (hj : j = match Numeral.ofValue? l f v with
      | some n => .number n
      | none => .null)
    {x : α} (hx : (Json.parse j.compact).bind read = some x) :
    Legible j ∧ read j = some x := by
  have hlegible : Legible j := by
    cases hn : Numeral.ofValue? l f v with
    | none =>
      rw [hn] at hj
      rw [hj]
      exact .null
    | some n =>
      rw [hn] at hj
      rw [hj] at hx ⊢
      refine Json.legible_number_of_parse (Numeral.shaped_of_ofValue? hn) fun hparse => ?_
      rw [hparse] at hx
      cases hx
  rw [hlegible.parse_compact_self] at hx
  exact ⟨hlegible, hx⟩

lemma Double.Restored.document {x : Double} (h : x.Restored) :
    Legible (.ofDouble x) ∧ (Json.ofDouble x).asDouble? = some x :=
  legible_of_restored rfl h

lemma Single.Restored.document {x : Single} (h : x.Restored) :
    Legible (.ofSingle x) ∧ (Json.ofSingle x).asSingle? = some x :=
  legible_of_restored rfl h

/-- The extents of a tensor as a document. -/
def Tensor.shapeToJson (t : Tensor) : Json :=
  .array (t.shape.map fun n => .number (.ofNat n.toNat))

/-- The numbers of a tensor as a document. -/
def Tensor.dataToJson (t : Tensor) : Json :=
  .array (t.data.map Json.ofSingle)

namespace Value

/-! ### Values and their spellings -/

/-- The number of lists around the most deeply nested part of a value. -/
def nesting : Value → Nat
  | list vs => listNesting vs + 1
  | _ => 0
where
  /-- The deepest nesting among several values. -/
  listNesting : List Value → Nat
    | [] => 0
    | v :: vs => max (nesting v) (listNesting vs)

/-- The parts of a value that are not lists. -/
def leaves : Value → List Value
  | list vs => listLeaves vs
  | v => [v]
where
  /-- The leaves of several values. -/
  listLeaves : List Value → List Value
    | [] => []
    | v :: vs => leaves v ++ listLeaves vs

/-- The text of each floating-point number in a value is read as that number. -/
structure FloatsRestored (v : Value) : Prop where
  double : ∀ x, double x ∈ v.leaves → x.Restored
  tensor : ∀ t, tensor t ∈ v.leaves → ∀ x ∈ t.data, x.Restored

/-- The documents that spell a value. -/
inductive Spelling : Value → Json → Prop where
  /-- Nothing by its name. -/
  | none : Spelling none (.ofString "None")
  /-- Nothing as an object. -/
  | noneField : Spelling none (.ofFields [("None", .null)])
  /-- A truth value. -/
  | bool (b : Bool) : Spelling (bool b) (.ofFields [("Bool", .bool b)])
  /-- An integer. -/
  | int (n : Int64) : Spelling (int n) (.ofFields [("Int", .number (.ofInt n.toInt))])
  /-- A floating-point number. -/
  | double (x : Double) : Spelling (double x) (.ofFields [("Double", .ofDouble x)])
  /-- A text. -/
  | string (s : String) : Spelling (string s) (.ofFields [("String", .ofString s)])
  /-- A tensor, its shape in front. -/
  | tensor (t : Tensor) : Spelling (tensor t) (.ofFields [("Tensor",
      .ofFields [("shape", t.shapeToJson), ("data", t.dataToJson)])])
  /-- A tensor, its data in front. -/
  | tensorSwapped (t : Tensor) : Spelling (tensor t) (.ofFields [("Tensor",
      .ofFields [("data", t.dataToJson), ("shape", t.shapeToJson)])])
  /-- A list, each of its members in some spelling. -/
  | list {vs : List Value} {items : List Json} (hlength : vs.length = items.length)
      (h : ∀ v j, (v, j) ∈ vs.zip items → Spelling v j) :
      Spelling (list vs) (.ofFields [("List", .array items)])

lemma listNesting_le {vs : List Value} {v : Value} (h : v ∈ vs) :
    v.nesting ≤ nesting.listNesting vs := by
  induction vs with
  | nil => cases h
  | cons w vs ih =>
    rw [nesting.listNesting]
    rcases List.mem_cons.mp h with rfl | h
    · exact le_max_left _ _
    · exact (ih h).trans (le_max_right _ _)

lemma mem_listLeaves {vs : List Value} {v w : Value} (hv : v ∈ vs) (hw : w ∈ v.leaves) :
    w ∈ leaves.listLeaves vs := by
  induction vs with
  | nil => cases hv
  | cons u vs ih =>
    rw [leaves.listLeaves, List.mem_append]
    rcases List.mem_cons.mp hv with rfl | hv
    · exact Or.inl hw
    · exact Or.inr (ih hv)

lemma FloatsRestored.of_mem {vs : List Value} {v : Value} (h : (list vs).FloatsRestored)
    (hv : v ∈ vs) : v.FloatsRestored where
  double x hx := h.double x (mem_listLeaves hv hx)
  tensor t ht := h.tensor t (mem_listLeaves hv ht)

lemma FloatsRestored.of_double {x : Double} (h : (Value.double x).FloatsRestored) : x.Restored :=
  h.double x (List.mem_singleton_self _)

lemma FloatsRestored.of_tensor {t : Tensor} (h : (Value.tensor t).FloatsRestored) :
    ∀ x ∈ t.data, x.Restored :=
  h.tensor t (List.mem_singleton_self _)

lemma Spelling.of_forall₂ {vs : List Value} {items : List Json}
    (h : List.Forall₂ Spelling vs items) : Spelling (.list vs) (.ofFields [("List", .array items)]) :=
  .list h.length_eq fun _ _ hmem => (List.forall₂_iff_zip.mp h).2 hmem

mutual

/-- The document that a value is written as spells it. -/
lemma spelling_toJson : ∀ v : Value, Spelling v v.toJson
  | .none => .none
  | .bool b => .bool b
  | .int n => .int n
  | .double x => .double x
  | .string s => .string s
  | .tensor t => .tensor t
  | .list vs => .of_forall₂ (forall₂_spelling_listToJson vs)

lemma forall₂_spelling_listToJson :
    ∀ vs : List Value, List.Forall₂ Spelling vs (toJson.listToJson vs)
  | [] => .nil
  | v :: vs => .cons (spelling_toJson v) (forall₂_spelling_listToJson vs)

end

/-! ### Spellings are legible -/

lemma legible_field {name : String} {j : Json} (h : Legible j) :
    Legible (.ofFields [(name, j)]) :=
  legible_ofFields fun f hf => by rwa [List.mem_singleton.mp hf]

lemma legible_shape (t : Tensor) : Legible t.shapeToJson := by
  refine .array fun item hitem => ?_
  obtain ⟨n, -, rfl⟩ := List.mem_map.mp hitem
  rw [Numeral.ofNat_eq_ofInt]
  exact .number (Numeral.wellFormed_ofInt _)

lemma legible_data {t : Tensor} (h : ∀ x ∈ t.data, x.Restored) : Legible t.dataToJson := by
  refine .array fun item hitem => ?_
  obtain ⟨x, hx, rfl⟩ := List.mem_map.mp hitem
  exact (h x hx).document.1

lemma Spelling.legible {v : Value} {j : Json} (h : Spelling v j) (hfloats : v.FloatsRestored) :
    Legible j := by
  induction h with
  | none => exact .string "None"
  | noneField => exact legible_field .null
  | bool b => exact legible_field (.bool b)
  | int n => exact legible_field (.number (Numeral.wellFormed_ofInt _))
  | double x => exact legible_field hfloats.of_double.document.1
  | string s => exact legible_field (.string s)
  | tensor t | tensorSwapped t =>
    have hshape := legible_shape t
    have hdata := legible_data hfloats.of_tensor
    refine legible_field (legible_ofFields ?_)
    simp [hshape, hdata]
  | @list vs items hlength h ih =>
    have hzip : (vs.zip items).map Prod.snd = items := List.map_snd_zip (by omega)
    refine legible_field (.array fun item hitem => ?_)
    rw [← hzip] at hitem
    obtain ⟨⟨v, j⟩, hmem, rfl⟩ := List.mem_map.mp hitem
    exact ih v j hmem (hfloats.of_mem (List.of_mem_zip hmem).1)

/-! ### Spellings have their values -/

lemma shapeOfJson?_shape (depth : Nat) (t : Tensor) :
    Tensor.shapeOfJson? (depth + 2) t.shapeToJson = some t.shape := by
  refine mapM_map_of_inverse fun n _ => ?_
  rw [Json.asWord?, Numeral.number?_ofNat]

lemma dataOfJson?_data (depth : Nat) {t : Tensor} (h : ∀ x ∈ t.data, x.Restored) :
    Tensor.dataOfJson? (depth + 2) t.dataToJson = some t.data :=
  mapM_map_of_inverse fun x hx => (h x hx).document.2

/-- The fields of a tensor are told apart by their names. -/
lemma tensor_ofJson? (depth : Nat) {t : Tensor} (h : ∀ x ∈ t.data, x.Restored) :
    Tensor.ofJson? (depth + 3) (.ofFields [("shape", t.shapeToJson), ("data", t.dataToJson)]) =
        some t ∧
      Tensor.ofJson? (depth + 3) (.ofFields [("data", t.dataToJson), ("shape", t.shapeToJson)]) =
        some t := by
  have hshape := shapeOfJson?_shape depth t
  have hdata := dataOfJson?_data depth h
  constructor <;>
    simp [Tensor.ofJson?, Json.ofFields, Json.lookupAll, Json.enter, hshape, hdata]

lemma listOfJson?_of_forall₂ {depth : Nat} {vs : List Value} {items : List Json}
    (h : List.Forall₂ (fun v j => Value.ofJson? depth j = some v) vs items) :
    listOfJson? depth items = some vs := by
  induction h with
  | nil => rfl
  | cons hv hvs ih => rw [listOfJson?, hv, ih]

/-- Each list takes two levels of the depth away, and a tensor with what is around it takes four. -/
lemma Spelling.ofJson? {v : Value} {j : Json} (h : Spelling v j) (hfloats : v.FloatsRestored)
    (spare : Nat) : Value.ofJson? (spare + (2 * v.nesting + 4)) j = some v := by
  induction h generalizing spare with
  | none | noneField | bool b | string s => rfl
  | int n => simp [Value.ofJson?, Json.ofFields, Json.enter, nesting, Numeral.asSigned?_ofInt]
  | double x =>
    simp [Value.ofJson?, Json.ofFields, Json.enter, nesting, hfloats.of_double.document.2]
  | tensor t =>
    have hread := (tensor_ofJson? spare hfloats.of_tensor).1
    simpa [Value.ofJson?, Json.ofFields, Json.enter, nesting] using hread
  | tensorSwapped t =>
    have hread := (tensor_ofJson? spare hfloats.of_tensor).2
    simpa [Value.ofJson?, Json.ofFields, Json.enter, nesting] using hread
  | @list vs items hlength h ih =>
    set depth := spare + (2 * nesting.listNesting vs + 4)
    have hmembers : List.Forall₂ (fun v j => Value.ofJson? depth j = some v) vs items := by
      refine List.forall₂_iff_zip.mpr ⟨hlength, fun {v j} hmem => ?_⟩
      have hv : v ∈ vs := (List.of_mem_zip hmem).1
      -- a member that is nested less deep than another one has depth to spare
      obtain ⟨k, hk⟩ := Nat.exists_eq_add_of_le (listNesting_le hv)
      have hmember := ih v j hmem (hfloats.of_mem hv) (spare + 2 * k)
      rwa [show spare + 2 * k + (2 * v.nesting + 4) = depth by omega] at hmember
    have hlevels : spare + (2 * (Value.list vs).nesting + 4) = depth + 2 := by
      rw [nesting]
      omega
    have houter : Json.enter (depth + 2) = some (depth + 1) := rfl
    have hinner : Json.enter (depth + 1) = some depth := rfl
    rw [hlevels]
    simp [Value.ofJson?, Json.ofFields, houter, hinner, listOfJson?_of_forall₂ hmembers]

lemma Spelling.parse? {v : Value} {j : Json} (h : Spelling v j) (hnesting : v.nesting ≤ 60)
    (hfloats : v.FloatsRestored) {before after : String} (hbefore : Blank before)
    (hafter : Blank after) : Value.parse? (before ++ j.compact ++ after) = some v := by
  have hvalue := h.ofJson? hfloats (124 - 2 * v.nesting)
  have hdepth : 124 - 2 * v.nesting + (2 * v.nesting + 4) = Json.maxDepth := by
    rw [Json.maxDepth]
    omega
  rw [Value.parse?, (h.legible hfloats).parse_compact hbefore hafter, Option.bind_some, ← hdepth,
    hvalue]

/-- **Values are restored from their text.**  A value whose lists are nested at most sixty deep, and
whose floating-point numbers have texts that are read as the same numbers, is read back from its
compact text, and then it is written as that text again.  It is read as well from each spelling of
it in which the fields of its tensors come in either order and nothing may be an object with a null
field, in any of its parts, with white space around the whole. -/
theorem parse?_render (v : Value) (hnesting : v.nesting ≤ 60) (hfloats : v.FloatsRestored) :
    parse? v.render = some v ∧
    (parse? v.render).map render = some v.render ∧
    ∀ j, Spelling v j → ∀ before after, Blank before → Blank after →
      parse? (before ++ j.compact ++ after) = some v ∧
      (parse? (before ++ j.compact ++ after)).map render = some v.render := by
  have hrender : parse? v.render = some v := by
    simpa [render] using
      (spelling_toJson v).parse? hnesting hfloats Json.blank_empty Json.blank_empty
  refine ⟨hrender, by rw [hrender, Option.map_some], fun j hj before after hbefore hafter => ?_⟩
  have hspelling := hj.parse? hnesting hfloats hbefore hafter
  exact ⟨hspelling, by rw [hspelling, Option.map_some]⟩

/-- A list with parts that are hard to write: the least integer, a text with a quote, a backslash, a
control character and a character beyond sixteen bits, a tensor with one number where its shape
calls for six, and a number that is written with an exponent. -/
def mixed : Value :=
  .list [.none, .int Int64.minValue, .string "\x22\x5c\x01😀", .tensor ⟨[2, 3], [⟨0x3dcccccd⟩]⟩,
    .double ⟨0xfe37e43c8800759c⟩]

/-- Another spelling of the list, between a blank and the end of a line. -/
theorem parse?_render_mixed :
    mixed.nesting ≤ 60 ∧ mixed.FloatsRestored ∧ parse? mixed.render = some mixed ∧
    parse? (" \x7b\"List\":[\x7b\"None\":null\x7d,\x7b\"Int\":-9223372036854775808\x7d," ++
      "\x7b\"String\":\"\\\"\\\\\\u0001😀\"\x7d," ++
      "\x7b\"Tensor\":\x7b\"data\":[0.1],\"shape\":[2,3]\x7d\x7d," ++
      "\x7b\"Double\":-1e+300\x7d]\x7d\n") = some mixed := by
  have hnesting : mixed.nesting ≤ 60 := by decide
  have hfloats : mixed.FloatsRestored := by
    constructor
    · intro x hx
      obtain rfl : x = ⟨0xfe37e43c8800759c⟩ := by
        simpa [mixed, leaves, leaves.listLeaves] using hx
      decide +kernel
    · intro t ht x hx
      obtain rfl : t = ⟨[2, 3], [⟨0x3dcccccd⟩]⟩ := by
        simpa [mixed, leaves, leaves.listLeaves] using ht
      obtain rfl : x = ⟨0x3dcccccd⟩ := by simpa using hx
      decide +kernel
  obtain ⟨hrender, -, hspellings⟩ := parse?_render mixed hnesting hfloats
  refine ⟨hnesting, hfloats, hrender, ?_⟩
  have hspelling := Spelling.of_forall₂ (.cons .noneField (.cons (.int Int64.minValue)
    (.cons (.string "\x22\x5c\x01😀") (.cons (.tensorSwapped ⟨[2, 3], [⟨0x3dcccccd⟩]⟩)
      (.cons (.double ⟨0xfe37e43c8800759c⟩) .nil)))))
  rw [← (hspellings _ hspelling " " "\n" (by decide) (by decide)).1]
  refine congrArg parse? ?_
  decide +kernel

/-- There are numbers whose shortest texts are read as neighbours of theirs. -/
example : ¬ Double.Restored ⟨0x3eb37357ae2cc59b⟩ := by decide +kernel

end Value

end Delegation
