import IntelAmt.AmtInfo.Inventory
import IntelAmt.Foundation.Text

/-!
# What the census explains

A fact that is missing is read off one property, and the census says in which
shape that property came.  The coercions and the census classify the same value
each in its own way.
-/

namespace IntelAmt
namespace Hardware

open Foundation Wsman Models

/-- The shape of a property that may not be there. -/
def shapeOfProperty (value : Option Value) : PropertyShape :=
  (value.map shapeOf).getD PropertyShape.absent

/-- A text that is not blank and is no number to `int`. -/
def NotANumber : Option Value -> Prop
  | some (Value.text s) => strip s ≠ "" ∧ intOf s = none
  | _ => False

/-- A value with child elements, or one that is repeated. -/
def NestedOrRepeated : Option Value -> Prop
  | some (Value.text _) => False
  | some _ => True
  | none => False

/-- The scalar properties that a chassis is read from, each with whether the
fact that is made of it is missing. -/
def ChassisInfo.missing (info : ChassisInfo) : List (String × Bool) :=
  [("SerialNumber", info.serialNumber.isNone),
    ("Model", info.model.isNone),
    ("Manufacturer", info.manufacturer.isNone),
    ("Version", info.version.isNone),
    ("Tag", info.tag.isNone),
    ("ElementName", info.elementName.isNone),
    ("ChassisPackageType", info.chassisPackageType.isNone),
    ("ChassisPackageType", info.chassisPackageTypeText.isNone),
    ("PackageType", info.packageType.isNone),
    ("PackageType", info.packageTypeText.isNone)]

def BaseboardInfo.missing (info : BaseboardInfo) : List (String × Bool) :=
  [("SerialNumber", info.serialNumber.isNone),
    ("Model", info.model.isNone),
    ("Manufacturer", info.manufacturer.isNone),
    ("Version", info.version.isNone),
    ("Tag", info.tag.isNone),
    ("ElementName", info.elementName.isNone),
    ("CanBeFRUed", info.canBeFrued.isNone),
    ("PackageType", info.packageType.isNone),
    ("PackageType", info.packageTypeText.isNone)]

/-- A fact is missing exactly if the census gives its property another shape
than that of a text. -/
def Explained (resourceClass : InventoryClass) (container : Instance)
    (missing : List (String × Bool)) : Prop :=
  forall name absent, (name, absent) ∈ missing ->
    (absent = true ↔ exists shape,
      (propertyShapes resourceClass container).1.lookup name = some shape ∧
        shape ≠ PropertyShape.text)

/-!
## The census
-/

theorem lookup_map_names {beta : Type} (f : String -> beta)
    {names : List String} {name : String} (h : name ∈ names) :
    (names.map fun name => (name, f name)).lookup name = some (f name) := by
  induction names with
  | nil => cases h
  | cons first names ih =>
      rw [List.map_cons, List.lookup_cons]
      by_cases hsame : name = first
      · rw [hsame, beq_self_eq_true]
      · rw [beq_eq_false_iff_ne.mpr hsame]
        exact ih ((List.mem_cons.mp h).resolve_left hsame)

theorem lookup_propertyShapes {resourceClass : InventoryClass}
    {name : String} (hread : name ∈ readPropertiesByClass resourceClass)
    (hname : isPropertyName name = true) (container : Instance) :
    (propertyShapes resourceClass container).1.lookup name =
      some (shapeOfProperty (container.lookup name)) := by
  rw [propertyShapes]
  apply lookup_map_names
  rw [List.mem_insertionSort, List.mem_filter, List.mem_dedup,
    List.mem_append]
  exact ⟨Or.inl hread, hname⟩

theorem readProperties_named (resourceClass : InventoryClass) :
    forall name, name ∈ readPropertiesByClass resourceClass ->
      isPropertyName name = true := by
  cases resourceClass <;> decide +kernel

theorem explained_iff {resourceClass : InventoryClass}
    {missing : List (String × Bool)}
    (hread : forall name, name ∈ missing.map Prod.fst ->
      name ∈ readPropertiesByClass resourceClass) (container : Instance) :
    Explained resourceClass container missing ↔
      forall entry, entry ∈ missing ->
        (entry.2 = true ↔ shapeOfProperty (container.lookup entry.1) ≠
          PropertyShape.text) := by
  have hcensus : forall entry, entry ∈ missing ->
      ((exists shape,
        (propertyShapes resourceClass container).1.lookup entry.1 =
            some shape ∧
          shape ≠ PropertyShape.text) ↔
        shapeOfProperty (container.lookup entry.1) ≠ PropertyShape.text) := by
    intro entry hmem
    have hin := hread entry.1 (List.mem_map_of_mem hmem)
    rw [lookup_propertyShapes hin
      (readProperties_named resourceClass entry.1 hin)]
    simp only [Option.some.injEq, exists_eq_left']
  constructor
  · intro h entry hmem
    rw [h entry.1 entry.2 hmem, hcensus entry hmem]
  · intro h name absent hmem
    rw [h (name, absent) hmem, hcensus (name, absent) hmem]

/-!
## Coercions
-/

theorem shapeOf_text_iff (s : String) :
    shapeOf (Value.text s) = PropertyShape.text ↔ strip s ≠ "" := by
  rw [shapeOf]
  split
  · next hblank => simp [hblank]
  · next htext => simp [htext]

theorem optionalStr_missing (value : Option Value) :
    (optionalStr value).isNone = true ↔
      shapeOfProperty value ≠ PropertyShape.text := by
  cases value with
  | none => decide
  | some value =>
      cases value with
      | text s =>
          rw [shapeOfProperty, Option.map_some, Option.getD_some, ne_eq,
            shapeOf_text_iff, optionalStr]
          by_cases hblank : strip s = ""
          · simp [hblank]
          · simp [hblank]
      | members entries => exact iff_of_true rfl PropertyShape.noConfusion
      | list items => exact iff_of_true rfl PropertyShape.noConfusion

theorem intOf_bracket {text : String} {c : Char}
    (hc : c = '[' ∨ c = '\x7b') (hhead : text.toList.head? = some c) :
    intOf text = none := by
  rcases List.head?_eq_some_iff.mp hhead with ⟨rest, htext⟩
  have hspace : Tls.isSpace c = false := by
    rcases hc with rfl | rfl <;> decide
  have hpoint : Json.asciiPoint c.toNat = c.toNat := by
    rcases hc with rfl | rfl <;> decide
  have hblank : Json.isTextSpace c.toNat = false := by
    rcases hc with rfl | rfl <;> decide
  have hdigit : Json.isTextDigit c.toNat = false := by
    rcases hc with rfl | rfl <;> decide
  have hstrip : exists later, (strip text).toList = c :: later := by
    rw [strip, htext, String.toList_ofList]
    exact dropEnds_cons hspace rest
  rcases hstrip with ⟨later, hlater⟩
  have hpoints : exists points, Json.strip
      (((strip text).toList.map Char.toNat).map Json.asciiPoint) =
        c.toNat :: points := by
    rw [hlater, List.map_cons, List.map_cons, hpoint]
    exact dropEnds_cons hblank _
  rcases hpoints with ⟨points, hpoints⟩
  have hnat : Json.textNat (c.toNat :: points) 0 = none := by
    unfold Json.textNat
    split <;> simp_all
  rw [intOf, Json.textInt, hpoints]
  split
  · rfl
  · split
    · next hplus =>
        rcases hc with rfl | rfl <;> simp at hplus
    · next hminus =>
        rcases hc with rfl | rfl <;> simp at hminus
    · rw [hnat]
      rfl

theorem intOf_blank {text : String} (h : strip text = "") :
    intOf text = none := by
  rw [intOf, h]
  decide

theorem optionalInt_missing (value : Option Value) :
    (optionalInt value).isNone = true ↔
      shapeOfProperty value ≠ PropertyShape.text ∨ NotANumber value := by
  cases value with
  | none => exact iff_of_true rfl (Or.inl (by decide))
  | some value =>
      cases value with
      | text s =>
          have hread : optionalInt (some (Value.text s)) = intOf s := by
            rw [optionalInt, Option.bind_some, Value.str]
          rw [shapeOfProperty, Option.map_some, Option.getD_some, ne_eq,
            shapeOf_text_iff, hread, not_not, NotANumber,
            Option.isNone_iff_eq_none]
          constructor
          · intro hnone
            by_cases hblank : strip s = ""
            · exact Or.inl hblank
            · exact Or.inr ⟨hblank, hnone⟩
          · rintro (hblank | ⟨_, hnone⟩)
            · exact intOf_blank hblank
            · exact hnone
      | members entries =>
          apply iff_of_true
          · rw [Option.isNone_iff_eq_none, optionalInt, Option.bind_some]
            exact intOf_bracket (Or.inr rfl)
              (by simp [Value.str, Value.repr])
          · exact Or.inl PropertyShape.noConfusion
      | list items =>
          apply iff_of_true
          · rw [Option.isNone_iff_eq_none, optionalInt, Option.bind_some]
            exact intOf_bracket (Or.inl rfl)
              (by simp [Value.str, Value.repr])
          · exact Or.inl PropertyShape.noConfusion

theorem optionalBool_missing (value : Option Value) :
    (optionalBool value).isNone = true ↔
      shapeOfProperty value ≠ PropertyShape.text ∧
        ¬ NestedOrRepeated value := by
  cases value with
  | none => exact iff_of_true rfl ⟨by decide, id⟩
  | some value =>
      cases value with
      | text s =>
          rw [shapeOfProperty, Option.map_some, Option.getD_some, ne_eq,
            shapeOf_text_iff, not_not, optionalBool, isBlank]
          by_cases hblank : strip s = ""
          · simp [hblank, NestedOrRepeated]
          · simp [hblank]
      | members entries =>
          exact iff_of_false Bool.false_ne_true fun h => h.2 trivial
      | list items =>
          exact iff_of_false Bool.false_ne_true fun h => h.2 trivial

/-!
## Facts
-/

theorem int_explained (value : Option Value) :
    ((optionalInt value).isNone = true ↔
      shapeOfProperty value ≠ PropertyShape.text) ↔ ¬ NotANumber value := by
  have htext : NotANumber value ->
      shapeOfProperty value = PropertyShape.text := by
    intro hnumber
    rcases value with _ | (s | _ | _)
    · cases hnumber
    · exact (shapeOf_text_iff s).mpr hnumber.1
    · cases hnumber
    · cases hnumber
  rw [optionalInt_missing]
  constructor
  · intro h hnumber
    exact h.mp (Or.inr hnumber) (htext hnumber)
  · intro hnumber
    exact or_iff_left hnumber

theorem bool_explained (value : Option Value) :
    ((optionalBool value).isNone = true ↔
      shapeOfProperty value ≠ PropertyShape.text) ↔
      ¬ NestedOrRepeated value := by
  have hshape : NestedOrRepeated value ->
      shapeOfProperty value ≠ PropertyShape.text := by
    intro hcompound
    rcases value with _ | (_ | _ | _)
    · cases hcompound
    · cases hcompound
    · exact PropertyShape.noConfusion
    · exact PropertyShape.noConfusion
  rw [optionalBool_missing]
  constructor
  · intro h hcompound
    exact (h.mpr (hshape hcompound)).2 hcompound
  · intro hcompound
    exact and_iff_left hcompound

theorem chassis_missing_read (info : ChassisInfo) :
    forall name, name ∈ info.missing.map Prod.fst ->
      name ∈ readPropertiesByClass InventoryClass.chassis := by
  simp [ChassisInfo.missing, readPropertiesByClass]

theorem baseboard_missing_read (info : BaseboardInfo) :
    forall name, name ∈ info.missing.map Prod.fst ->
      name ∈ readPropertiesByClass InventoryClass.card := by
  simp [BaseboardInfo.missing, readPropertiesByClass]

section Facts

variable (container : Instance)

theorem chassis_missing :
    (ChassisInfo.fromInstance container).missing =
      [("SerialNumber",
          (optionalStr (container.lookup "SerialNumber")).isNone),
        ("Model", (optionalStr (container.lookup "Model")).isNone),
        ("Manufacturer",
          (optionalStr (container.lookup "Manufacturer")).isNone),
        ("Version", (optionalStr (container.lookup "Version")).isNone),
        ("Tag", (optionalStr (container.lookup "Tag")).isNone),
        ("ElementName",
          (optionalStr (container.lookup "ElementName")).isNone),
        ("ChassisPackageType",
          (optionalInt (container.lookup "ChassisPackageType")).isNone),
        ("ChassisPackageType",
          (optionalInt (container.lookup "ChassisPackageType")).isNone),
        ("PackageType",
          (optionalInt (container.lookup "PackageType")).isNone),
        ("PackageType",
          (optionalInt (container.lookup "PackageType")).isNone)] := by
  simp only [ChassisInfo.missing, ChassisInfo.fromInstance, Option.isNone_map]

theorem baseboard_missing :
    (BaseboardInfo.fromInstance container).missing =
      [("SerialNumber",
          (optionalStr (container.lookup "SerialNumber")).isNone),
        ("Model", (optionalStr (container.lookup "Model")).isNone),
        ("Manufacturer",
          (optionalStr (container.lookup "Manufacturer")).isNone),
        ("Version", (optionalStr (container.lookup "Version")).isNone),
        ("Tag", (optionalStr (container.lookup "Tag")).isNone),
        ("ElementName",
          (optionalStr (container.lookup "ElementName")).isNone),
        ("CanBeFRUed",
          (optionalBool (container.lookup "CanBeFRUed")).isNone),
        ("PackageType",
          (optionalInt (container.lookup "PackageType")).isNone),
        ("PackageType",
          (optionalInt (container.lookup "PackageType")).isNone)] := by
  simp only [BaseboardInfo.missing, BaseboardInfo.fromInstance,
    Option.isNone_map]

/-- The facts of a chassis are explained exactly if no property that is read
for a number is a text that is none; those of a baseboard exactly if the package
type is no such text and `CanBeFRUed` is neither nested nor repeated. -/
theorem census_explains_iff :
    (Explained InventoryClass.chassis container
        (ChassisInfo.fromInstance container).missing ↔
      ¬ NotANumber (container.lookup "ChassisPackageType") ∧
        ¬ NotANumber (container.lookup "PackageType")) ∧
    (Explained InventoryClass.card container
        (BaseboardInfo.fromInstance container).missing ↔
      ¬ NestedOrRepeated (container.lookup "CanBeFRUed") ∧
        ¬ NotANumber (container.lookup "PackageType")) := by
  have hempty : (forall entry : String × Bool, entry ∈ [] ->
      (entry.2 = true ↔ shapeOfProperty (container.lookup entry.1) ≠
        PropertyShape.text)) ↔ True :=
    iff_of_true (fun _ hmem => absurd hmem List.not_mem_nil) trivial
  have hstr : forall name, ((optionalStr (container.lookup name)).isNone = true ↔
      shapeOfProperty (container.lookup name) ≠ PropertyShape.text) ↔ True :=
    fun name => iff_of_true (optionalStr_missing _) trivial
  constructor
  · rw [explained_iff (chassis_missing_read _), chassis_missing]
    simp only [List.forall_mem_cons, hempty, hstr, int_explained, true_and,
      and_true]
    constructor
    · rintro ⟨hchassis, _, hpackage, _⟩
      exact ⟨hchassis, hpackage⟩
    · rintro ⟨hchassis, hpackage⟩
      exact ⟨hchassis, hchassis, hpackage, hpackage⟩
  · rw [explained_iff (baseboard_missing_read _), baseboard_missing]
    simp only [List.forall_mem_cons, hempty, hstr, int_explained,
      bool_explained, true_and, and_true, and_self]

end Facts

/-- A package type that is a word, and a flag that comes twice. -/
theorem facts_unexplained :
    ¬ Explained InventoryClass.chassis [("PackageType", Value.text "blade")]
      (ChassisInfo.fromInstance
        [("PackageType", Value.text "blade")]).missing ∧
    ¬ Explained InventoryClass.card
      [("CanBeFRUed", Value.list [Value.text "true", Value.text "true"])]
      (BaseboardInfo.fromInstance
        [("CanBeFRUed",
          Value.list [Value.text "true", Value.text "true"])]).missing := by
  constructor
  · intro h
    have hcensus := (explained_iff (chassis_missing_read _) _).mp h
      ("PackageType", true) (by decide +kernel)
    exact hcensus.mp rfl (by decide +kernel)
  · intro h
    have hcensus := (explained_iff (baseboard_missing_read _) _).mp h
      ("CanBeFRUed", false) (by decide +kernel)
    exact Bool.false_ne_true (hcensus.mpr PropertyShape.noConfusion)

end Hardware
end IntelAmt
