import Delegation.Config.Load
import Delegation.Proofs.Json.Documents
import Delegation.Settings.Json
import Mathlib.Data.List.Perm.Basic
/-!
# Settings are read back from their JSON text

Some of the five fields of settings are chosen and given values (`Settings.Choice`), and the chosen
fields are written into an object, each of them once.  Where they stand does not matter, and neither
do the other fields of the object: what is read is the default settings with the chosen fields
overwritten.  If one of the five fields occurs twice, nothing is read.

The proof looks at one field at a time.  The documents under a name, in whatever object, are the
chosen value of that name or none, since a list without order that has at most one member is a list
(`Settings.field?_of_chosen`).
-/

namespace Delegation.Settings

open Json (Legible Blank Numeral legible_ofFields mapM_map_of_inverse)

/-- Values for some of the fields of settings. -/
structure Choice where
  preCompile : Option Bool := none
  signalOverrides : Option Bool := none
  fusionEnabled : Option Bool := none
  minGroupSize : Option UInt64 := none
  blacklist : Option (List String) := none
deriving DecidableEq, Repr

/-- The choice of all fields, with the values that they have. -/
def chooseAll (s : Settings) : Choice :=
  ⟨some s.preCompile, some s.signalOverrides, some s.fusionEnabled, some s.minGroupSize,
    some s.blacklist⟩

/-- A field of a name, if it is chosen. -/
def chosenField {α : Type} (name : String) (toJson : α → Json) (value : Option α) :
    List (String × Json) :=
  (value.map fun a => (name, toJson a)).toList

/-- A number of 64 bits as a document. -/
def wordToJson (n : UInt64) : Json :=
  .number (.ofNat n.toNat)

/-- Texts as a document. -/
def textsToJson (texts : List String) : Json :=
  .array (texts.map Json.ofString)

namespace Choice

/-- The default settings with the chosen fields overwritten. -/
def settings (c : Choice) : Settings :=
  let base : Settings := {}
  { preCompile := c.preCompile.getD base.preCompile
    signalOverrides := c.signalOverrides.getD base.signalOverrides
    fusionEnabled := c.fusionEnabled.getD base.fusionEnabled
    minGroupSize := c.minGroupSize.getD base.minGroupSize
    blacklist := c.blacklist.getD base.blacklist }

/-- The chosen fields as they are written. -/
def fields (c : Choice) : List (String × Json) :=
  chosenField "pre_compile" .bool c.preCompile ++
  chosenField "enable_signal_handler_overrides" .bool c.signalOverrides ++
  chosenField "fusion_enabled" .bool c.fusionEnabled ++
  chosenField "min_fusion_group_size" wordToJson c.minGroupSize ++
  chosenField "op_blacklist" textsToJson c.blacklist

end Choice

/-- The chosen fields stand in an object, each of them once and in any order; no other field has one
of the five names. -/
def Chosen (c : Choice) (fields : List (String × Json)) : Prop :=
  (fields.filter fun f => f.1 ∈ fieldNames).Perm c.fields

lemma toJson_eq (s : Settings) : s.toJson = .ofFields s.chooseAll.fields := rfl

lemma settings_chooseAll (s : Settings) : s.chooseAll.settings = s := rfl

/-! ### What is written is legible -/

lemma legible_wordToJson (n : UInt64) : Legible (wordToJson n) := by
  rw [wordToJson, Numeral.ofNat_eq_ofInt]
  exact .number (Numeral.wellFormed_ofInt _)

lemma legible_textsToJson (texts : List String) : Legible (textsToJson texts) := by
  refine .array fun item hitem => ?_
  obtain ⟨text, -, rfl⟩ := List.mem_map.mp hitem
  exact .string text

lemma legible_chosenField {α : Type} {name : String} {toJson : α → Json}
    (h : ∀ a, Legible (toJson a)) {value : Option α} :
    ∀ f ∈ chosenField name toJson value, Legible f.2 := by
  intro f hf
  obtain ⟨a, -, rfl⟩ : ∃ a, value = some a ∧ (name, toJson a) = f := by
    simpa [chosenField] using hf
  exact h a

lemma Choice.legible_fields (c : Choice) : ∀ f ∈ c.fields, Legible f.2 := by
  intro f hf
  simp only [Choice.fields, List.mem_append] at hf
  rcases hf with (((hf | hf) | hf) | hf) | hf
  · exact legible_chosenField .bool f hf
  · exact legible_chosenField .bool f hf
  · exact legible_chosenField .bool f hf
  · exact legible_chosenField legible_wordToJson f hf
  · exact legible_chosenField legible_textsToJson f hf

lemma Chosen.legible {c : Choice} {fields : List (String × Json)} (h : Chosen c fields)
    (hothers : ∀ f ∈ fields, f.1 ∉ fieldNames → Legible f.2) : ∀ f ∈ fields, Legible f.2 := by
  intro f hf
  by_cases hname : f.1 ∈ fieldNames
  · have hmem : f ∈ fields.filter fun f => f.1 ∈ fieldNames := by
      simpa [hf] using hname
    exact c.legible_fields f (h.mem_iff.mp hmem)
  · exact hothers f hf hname

/-! ### One field -/

lemma lookupAll_ofFields (fields : List (String × Json)) (name : String) :
    Json.lookupAll (fields.map fun f => (some f.1, f.2)) name =
      (fields.filter fun f => f.1 = name).map Prod.snd := by
  rw [Json.lookupAll, List.filter_map, List.map_map]
  have htest : ((fun f : Json.Content × Json => f.1 == some name) ∘
      fun f : String × Json => (some f.1, f.2)) = fun f => decide (f.1 = name) := by
    funext f
    rw [Bool.eq_iff_iff]
    simp
  rw [htest]
  rfl

lemma filter_chosenField {α : Type} (name other : String) (toJson : α → Json) (value : Option α) :
    (chosenField name toJson value).filter (fun f => f.1 = other) =
      if name = other then chosenField name toJson value else [] := by
  cases value with
  | none => simp [chosenField]
  | some a => by_cases h : name = other <;> simp [chosenField, h]

/-- A list without order that has at most one member is a list. -/
lemma eq_toList_of_perm {α : Type} {xs : List α} {x? : Option α} (h : xs.Perm x?.toList) :
    xs = x?.toList := by
  cases x? with
  | none => exact List.perm_nil.mp h
  | some x => exact List.perm_singleton.mp h

/-- The documents under one of the five names are its chosen value, or none. -/
lemma lookupAll_of_chosen {α : Type} {c : Choice} {fields : List (String × Json)}
    (h : Chosen c fields) {name : String} (hname : name ∈ fieldNames) {toJson : α → Json}
    {value : Option α}
    (hvalue : c.fields.filter (fun f => f.1 = name) = chosenField name toJson value) :
    Json.lookupAll (fields.map fun f => (some f.1, f.2)) name = (value.map toJson).toList := by
  -- the other fields have other names
  have hinner : fields.filter (fun f => f.1 = name) =
      (fields.filter fun f => f.1 ∈ fieldNames).filter fun f => f.1 = name := by
    rw [List.filter_filter]
    refine List.filter_congr fun f _ => ?_
    by_cases hf : f.1 = name
    · simp [hf, hname]
    · simp [hf]
  have hperm : (fields.filter fun f => f.1 = name).Perm (chosenField name toJson value) := by
    rw [hinner, ← hvalue]
    exact h.filter _
  rw [lookupAll_ofFields, eq_toList_of_perm hperm]
  cases value <;> rfl

/-- **One of the five fields is read** as its chosen value, or as its default. -/
lemma field?_of_chosen {α : Type} {c : Choice} {fields : List (String × Json)}
    (h : Chosen c fields) {name : String} (hname : name ∈ fieldNames) {toJson : α → Json}
    {value : Option α}
    (hvalue : c.fields.filter (fun f => f.1 = name) = chosenField name toJson value)
    {read : Json → Option α} (hread : ∀ a, read (toJson a) = some a) (default : α) :
    field? read default (Json.lookupAll (fields.map fun f => (some f.1, f.2)) name) =
      some (value.getD default) := by
  rw [lookupAll_of_chosen h hname hvalue]
  cases value with
  | none => rfl
  | some a => exact hread a

lemma field?_of_two {α : Type} {documents : List Json} (h : 2 ≤ documents.length)
    (read : Json → Option α) (default : α) : field? read default documents = none := by
  match documents, h with
  | _ :: _ :: _, _ => rfl

lemma asBool?_bool (b : Bool) : (Json.bool b).asBool? = some b := rfl

lemma asWord?_wordToJson (n : UInt64) : (wordToJson n).asWord? = some n := by
  rw [wordToJson, Json.asWord?, Numeral.number?_ofNat]

lemma textsOfJson?_textsToJson (texts : List String) :
    textsOfJson? (textsToJson texts) = some texts :=
  mapM_map_of_inverse fun _ _ => rfl

/-! ### All fields -/

lemma mapM_fst_ofFields (fields : List (String × Json)) :
    (fields.map fun f => ((some f.1 : Json.Content), f.2)).mapM Prod.fst =
      some (fields.map Prod.fst) := by
  induction fields with
  | nil => rfl
  | cons f fields ih =>
    rw [List.map_cons, List.mapM_cons, ih]
    rfl

lemma ofJson?_ofFields (fields : List (String × Json)) :
    ofJson? (.ofFields fields) =
      let all := Json.lookupAll (fields.map fun f => (some f.1, f.2))
      ofParts? (all "pre_compile") (all "enable_signal_handler_overrides") (all "fusion_enabled")
        (all "min_fusion_group_size") (all "op_blacklist") := by
  rw [Json.ofFields, ofJson?, mapM_fst_ofFields]
  rfl

/-- The chosen fields under each of the five names. -/
lemma Choice.filter_fields (c : Choice) :
    c.fields.filter (fun f => f.1 = "pre_compile") =
        chosenField "pre_compile" .bool c.preCompile ∧
      c.fields.filter (fun f => f.1 = "enable_signal_handler_overrides") =
        chosenField "enable_signal_handler_overrides" .bool c.signalOverrides ∧
      c.fields.filter (fun f => f.1 = "fusion_enabled") =
        chosenField "fusion_enabled" .bool c.fusionEnabled ∧
      c.fields.filter (fun f => f.1 = "min_fusion_group_size") =
        chosenField "min_fusion_group_size" wordToJson c.minGroupSize ∧
      c.fields.filter (fun f => f.1 = "op_blacklist") =
        chosenField "op_blacklist" textsToJson c.blacklist := by
  simp [Choice.fields, filter_chosenField]

/-- **The chosen fields are read**, and the other ones have their defaults. -/
lemma ofJson?_of_chosen {c : Choice} {fields : List (String × Json)} (h : Chosen c fields) :
    ofJson? (.ofFields fields) = some c.settings := by
  obtain ⟨hpreCompile, hsignal, hfusion, hsize, hblacklist⟩ := c.filter_fields
  rw [ofJson?_ofFields]
  simp only [ofParts?, field?_of_chosen h (by decide) hpreCompile asBool?_bool,
    field?_of_chosen h (by decide) hsignal asBool?_bool,
    field?_of_chosen h (by decide) hfusion asBool?_bool,
    field?_of_chosen h (by decide) hsize asWord?_wordToJson,
    field?_of_chosen h (by decide) hblacklist textsOfJson?_textsToJson]
  rfl

/-- **An object in which one of the five fields occurs twice is refused.** -/
lemma ofJson?_of_twice {fields : List (String × Json)} {name : String} (hname : name ∈ fieldNames)
    (h : 2 ≤ (fields.filter fun f => f.1 = name).length) : ofJson? (.ofFields fields) = none := by
  have htwo : 2 ≤ (Json.lookupAll (fields.map fun f => (some f.1, f.2)) name).length := by
    rwa [lookupAll_ofFields, List.length_map]
  rw [ofJson?_ofFields]
  simp only [fieldNames, List.mem_cons, List.not_mem_nil, or_false] at hname
  rcases hname with rfl | rfl | rfl | rfl | rfl <;> simp [ofParts?, field?_of_two htwo]

lemma two_le_filter {before after : List (String × Json)} {name : String} {value : Json} (j : Json)
    (h : (name, value) ∈ before ++ after) :
    2 ≤ ((before ++ (name, j) :: after).filter fun f => f.1 = name).length := by
  have hone : 0 < ((before ++ after).filter fun f => f.1 = name).length :=
    List.length_pos_of_mem (List.mem_filter.mpr ⟨h, by simp⟩)
  rw [List.filter_append, List.length_append] at hone ⊢
  rw [List.filter_cons_of_pos (by simp), List.length_cons]
  omega

/-! ### Texts -/

lemma parse?_of_legible {fields : List (String × Json)} (h : ∀ f ∈ fields, Legible f.2)
    {left right : String} (hleft : Blank left) (hright : Blank right) :
    parse? (left ++ (Json.ofFields fields).compact ++ right) = ofJson? (.ofFields fields) := by
  rw [parse?, (legible_ofFields h).parse_compact hleft hright, Option.bind_some]

/-- **Settings are restored from their text, and the order of fields does not matter.**  All settings
are read back from their compact text.  If some of the five fields are written into an object, each
of them once and in any order, among fields of other names that hold any documents, then the default
settings are read with the chosen fields overwritten; and nothing is read if one of them is written
once more, with whatever document and in whatever place. -/
theorem parse?_of_chosen :
    (∀ s : Settings, parse? s.render = some s) ∧
    ∀ (c : Choice) (fields : List (String × Json)), Chosen c fields →
      (∀ f ∈ fields, f.1 ∉ fieldNames → Legible f.2) →
      ∀ left right, Blank left → Blank right →
        parse? (left ++ (Json.ofFields fields).compact ++ right) = some c.settings ∧
        ∀ f ∈ c.fields, ∀ j, Legible j → ∀ before after, before ++ after = fields →
          parse? (left ++ (Json.ofFields (before ++ (f.1, j) :: after)).compact ++ right) =
            none := by
  constructor
  · intro s
    have hlegible := legible_ofFields s.chooseAll.legible_fields
    have hall : Chosen s.chooseAll s.chooseAll.fields := List.Perm.refl _
    rw [parse?, render, toJson_eq, hlegible.parse_compact_self, Option.bind_some,
      ofJson?_of_chosen hall, settings_chooseAll]
  · intro c fields hchosen hothers left right hleft hright
    have hlegible := hchosen.legible hothers
    refine ⟨by rw [parse?_of_legible hlegible hleft hright, ofJson?_of_chosen hchosen], ?_⟩
    rintro ⟨name, value⟩ hf j hj before after rfl
    -- the field that is written once more stands among the fields already
    have hmem : (name, value) ∈ (before ++ after).filter fun f => f.1 ∈ fieldNames :=
      hchosen.mem_iff.mpr hf
    obtain ⟨hfields, hname⟩ := List.mem_filter.mp hmem
    rw [parse?_of_legible ?_ hleft hright]
    · exact ofJson?_of_twice (of_decide_eq_true hname) (two_le_filter j hfields)
    · intro g hg
      rcases List.mem_append.mp hg with hg | hg
      · exact hlegible g (List.mem_append_left _ hg)
      · rcases List.mem_cons.mp hg with rfl | hg
        · exact hj
        · exact hlegible g (List.mem_append_right _ hg)

/-- Two fields in the other order than they are declared in, among fields of one other name.  Inside
of an ignored document the name of a field means nothing, and the repeated field is refused although
it is written at the very end. -/
theorem parse?_of_chosen_scattered :
    let c : Choice :=
      { minGroupSize := some 18446744073709551615, blacklist := some ["\x22\x5c\x01😀"] }
    let inner := Json.ofFields [("pre_compile", .array [.null, .bool true])]
    let fields := [("x", Json.array [inner, .ofString "]"]), ("op_blacklist",
      textsToJson ["\x22\x5c\x01😀"]), ("x", .number (.ofInt (-9223372036854775808))),
      ("min_fusion_group_size", wordToJson 18446744073709551615)]
    Chosen c fields ∧ (∀ f ∈ fields, f.1 ∉ fieldNames → Legible f.2) ∧
      parse? (" \x7b\"x\":[\x7b\"pre_compile\":[null,true]\x7d,\"]\"]," ++
        "\"op_blacklist\":[\"\\\"\\\\\\u0001😀\"],\"x\":-9223372036854775808," ++
        "\"min_fusion_group_size\":18446744073709551615\x7d\n") =
        some { minGroupSize := 18446744073709551615, blacklist := ["\x22\x5c\x01😀"] } ∧
      parse? (" \x7b\"x\":[\x7b\"pre_compile\":[null,true]\x7d,\"]\"]," ++
        "\"op_blacklist\":[\"\\\"\\\\\\u0001😀\"],\"x\":-9223372036854775808," ++
        "\"min_fusion_group_size\":18446744073709551615,\"op_blacklist\":null\x7d\n") = none := by
  intro c inner fields
  have hchosen : Chosen c fields := List.Perm.swap _ _ _
  have hothers : ∀ f ∈ fields, f.1 ∉ fieldNames → Legible f.2 := by
    intro f hf hname
    have hinner : Legible inner := by
      refine legible_ofFields fun f hf => ?_
      rw [List.mem_singleton.mp hf]
      exact .array (by simp [Legible.null, Legible.bool])
    simp only [fields, List.mem_cons, List.not_mem_nil, or_false] at hf
    rcases hf with rfl | rfl | rfl | rfl
    · exact .array (by simpa [Json.ofString] using ⟨hinner, Legible.string _⟩)
    · exact absurd (by decide) hname
    · exact .number (Numeral.wellFormed_ofInt _)
    · exact absurd (by decide) hname
  obtain ⟨hread, htwice⟩ :=
    parse?_of_chosen.2 c fields hchosen hothers " " "\n" (by decide) (by decide)
  refine ⟨hchosen, hothers, ?_, ?_⟩
  · refine Eq.trans (congrArg parse? ?_) hread
    decide +kernel
  · have hmem : ("op_blacklist", textsToJson ["\x22\x5c\x01😀"]) ∈ c.fields := .tail _ (.head _)
    refine Eq.trans (congrArg parse? ?_) (htwice _ hmem .null .null fields [] (List.append_nil _))
    decide +kernel

end Delegation.Settings
