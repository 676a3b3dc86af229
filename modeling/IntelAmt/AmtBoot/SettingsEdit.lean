import IntelAmt.AmtBoot.Sequence

/-!
# What the edit of the boot settings touches

The edit as a function on dictionaries whose values may be anything that is
written, and what each key is looked up as behind it.
-/

namespace IntelAmt
namespace AmtBoot

open Foundation Wsman

/-!
## Stages
-/

/-- An erase field that was read is set to false, whatever was read. -/
def eraseIfKnown (read properties : Properties) (name : String) :
    Properties :=
  if hasKey name read then setField properties (name, Scalar.bool false)
  else properties

/-- The edit of what may be its own output. -/
def editProperties (read : Properties) (plan : BootPlan) : Properties :=
  let mutated := deleteBeforePutFields.foldl popField read
  let mutated := zeroIfPresentFields.foldl zeroIfPresent mutated
  let mutated := (fixedFields plan).foldl setField mutated
  optionalEraseFields.foldl (eraseIfKnown read) mutated

/-- The dictionary that was read, as it would be written back. -/
def parsedProperties (read : Instance) : Properties :=
  read.map fun entry => (entry.1, Scalar.parsed entry.2)

theorem hasKey_eq {alpha : Type} (name : String)
    (entries : List (String × alpha)) :
    hasKey name entries = (entries.lookup name).isSome := by
  induction entries with
  | nil => rfl
  | cons entry rest ih =>
      rw [hasKey] at ih ⊢
      rw [List.any_cons, ih, lookup_cons_ite]
      by_cases hname : entry.1 = name
      · rw [if_pos hname.symm, decide_eq_true hname]
        rfl
      · rw [if_neg (Ne.symm hname), decide_eq_false hname]
        rfl

theorem lookup_parsedProperties (read : Instance) (name : String) :
    (parsedProperties read).lookup name =
      (read.lookup name).map Scalar.parsed := by
  induction read with
  | nil => rfl
  | cons entry rest ih =>
      rw [parsedProperties, List.map_cons, lookup_cons_ite, lookup_cons_ite]
      by_cases hname : name = entry.1
      · rw [if_pos hname, if_pos hname]
        rfl
      · rw [if_neg hname, if_neg hname]
        exact ih

theorem hasKey_parsedProperties (name : String) (read : Instance) :
    hasKey name (parsedProperties read) = hasKey name read := by
  rw [hasKey_eq, hasKey_eq, lookup_parsedProperties, Option.isSome_map]

theorem buildPutProperties_eq (read : Instance) (plan : BootPlan) :
    buildPutProperties read plan =
      editProperties (parsedProperties read) plan := by
  have herase : eraseIfKnown (parsedProperties read) = eraseIfRead read := by
    funext properties name
    rw [eraseIfKnown, eraseIfRead, hasKey_parsedProperties]
  rw [editProperties, herase]
  rfl

section Stages

variable (properties : Properties) (name : String)

theorem lookup_popFields (fields : List String) :
    (fields.foldl popField properties).lookup name =
      if name ∈ fields then none else properties.lookup name := by
  induction fields generalizing properties with
  | nil => simp
  | cons field rest ih =>
      rw [List.foldl_cons, ih, popField, lookup_filter_ne]
      by_cases hrest : name ∈ rest
      · rw [if_pos hrest, if_pos (List.mem_cons_of_mem _ hrest)]
      · simp [hrest]

theorem lookup_zeroIfPresent (field : String) :
    (zeroIfPresent properties field).lookup name =
      if name = field then
        (properties.lookup name).map fun _ => Scalar.int 0
      else properties.lookup name := by
  rw [zeroIfPresent, hasKey_eq]
  by_cases hname : name = field
  · rw [if_pos hname, hname]
    cases hfield : properties.lookup field with
    | none => exact hfield
    | some old =>
        rw [Option.isSome_some, if_pos rfl, setField, lookup_assign,
          if_pos rfl]
        rfl
  · rw [if_neg hname]
    split
    · rw [setField, lookup_assign, if_neg hname]
    · rfl

theorem lookup_zeroFields (fields : List String) :
    (fields.foldl zeroIfPresent properties).lookup name =
      if name ∈ fields then
        (properties.lookup name).map fun _ => Scalar.int 0
      else properties.lookup name := by
  induction fields generalizing properties with
  | nil => rfl
  | cons field rest ih =>
      rw [List.foldl_cons, ih, lookup_zeroIfPresent]
      by_cases hname : name = field
      · simp [hname, Function.comp_def]
      · simp [hname]

theorem lookup_setFields {fields : List (String × Scalar)}
    (hnodup : (fields.map Prod.fst).Nodup) :
    (fields.foldl setField properties).lookup name =
      (fields.lookup name).or (properties.lookup name) := by
  induction fields generalizing properties with
  | nil => rfl
  | cons field rest ih =>
      rw [List.map_cons, List.nodup_cons] at hnodup
      rw [List.foldl_cons, ih _ hnodup.2, setField, lookup_assign,
        lookup_cons_ite]
      by_cases hname : name = field.1
      · have hnone : rest.lookup name = none := by
          rw [List.lookup_eq_none_iff]
          intro entry hentry
          apply bne_iff_ne.mpr
          intro heq
          apply hnodup.1
          rw [← hname, heq]
          exact List.mem_map_of_mem hentry
        rw [if_pos hname, if_pos hname, hnone]
        rfl
      · rw [if_neg hname, if_neg hname]

theorem lookup_eraseFields (read : Properties) (fields : List String) :
    (fields.foldl (eraseIfKnown read) properties).lookup name =
      if name ∈ fields ∧ hasKey name read = true then
        some (Scalar.bool false)
      else properties.lookup name := by
  induction fields generalizing properties with
  | nil => simp
  | cons field rest ih =>
      rw [List.foldl_cons, ih, eraseIfKnown]
      by_cases hname : name = field
      · cases hread : hasKey field read with
        | true => simp [hname, hread, setField, lookup_assign]
        | false => simp [hname, hread]
      · cases hread : hasKey field read with
        | true => simp [hname, setField, lookup_assign]
        | false => simp [hname]

end Stages

/-!
## The edit
-/

/-- The names of the fixed fields, which are those of every plan. -/
def fixedNames : List String :=
  ["ConfigurationDataReset", "BIOSPause", "EnforceSecureBoot", "BIOSSetup",
    "BootMediaIndex", "FirmwareVerbosity", "ForcedProgressEvents",
    "IDERBootDevice", "LockKeyboard", "LockPowerButton", "LockResetButton",
    "LockSleepButton", "ReflashBIOS", "UseIDER", "UseSOL", "UseSafeMode",
    "UserPasswordBypass"]

theorem fixedFields_names (plan : BootPlan) :
    (fixedFields plan).map Prod.fst = fixedNames := rfl

theorem fixedNames_nodup : fixedNames.Nodup := by decide

theorem fields_apart :
    (forall name, name ∈ fixedNames -> name ∉ optionalEraseFields) ∧
      (forall name, name ∈ deleteBeforePutFields ->
        name ∉ fixedNames ∧ name ∉ optionalEraseFields) ∧
      forall name, name ∈ zeroIfPresentFields ->
        name ∉ fixedNames ∧ name ∉ optionalEraseFields ∧
          name ∉ deleteBeforePutFields := by
  decide

section Edit

variable (read : Properties) (plan : BootPlan)

theorem lookup_editProperties (name : String) :
    (editProperties read plan).lookup name =
      if name ∈ optionalEraseFields ∧ hasKey name read = true then
        some (Scalar.bool false)
      else
        ((fixedFields plan).lookup name).or
          (if name ∈ deleteBeforePutFields then none
          else if name ∈ zeroIfPresentFields then
            (read.lookup name).map fun _ => Scalar.int 0
          else read.lookup name) := by
  have hnodup : ((fixedFields plan).map Prod.fst).Nodup := fixedNames_nodup
  rw [editProperties, lookup_eraseFields, lookup_setFields _ _ hnodup,
    lookup_zeroFields, lookup_popFields]
  by_cases hdeleted : name ∈ deleteBeforePutFields
  · simp [hdeleted]
  · simp [hdeleted]

theorem lookup_fixed_none {name : String} (h : name ∉ fixedNames) :
    (fixedFields plan).lookup name = none := by
  rw [List.lookup_eq_none_iff]
  intro entry hentry
  apply bne_iff_ne.mpr
  intro heq
  apply h
  rw [heq, ← fixedFields_names plan]
  exact List.mem_map_of_mem hentry

theorem lookup_edit_denied {name : String}
    (h : name ∈ deleteBeforePutFields) :
    (editProperties read plan).lookup name = none := by
  rcases fields_apart.2.1 name h with ⟨hfixed, herase⟩
  rw [lookup_editProperties, if_neg fun hboth => herase hboth.1,
    lookup_fixed_none plan hfixed, if_pos h]
  rfl

theorem lookup_edit_zeroed {name : String} (h : name ∈ zeroIfPresentFields) :
    (editProperties read plan).lookup name =
      (read.lookup name).map fun _ => Scalar.int 0 := by
  rcases fields_apart.2.2 name h with ⟨hfixed, herase, hdenied⟩
  rw [lookup_editProperties, if_neg fun hboth => herase hboth.1,
    lookup_fixed_none plan hfixed, if_neg hdenied, if_pos h]
  rfl

theorem lookup_edit_fixed {field : String × Scalar}
    (h : field ∈ fixedFields plan) :
    (editProperties read plan).lookup field.1 = some field.2 := by
  have hname : field.1 ∈ fixedNames := by
    rw [← fixedFields_names plan]
    exact List.mem_map_of_mem h
  have hnodup : ((fixedFields plan).map Prod.fst).Nodup := fixedNames_nodup
  rw [lookup_editProperties, if_neg fun hboth =>
    fields_apart.1 field.1 hname hboth.1, lookup_of_mem hnodup h]
  rfl

theorem lookup_edit_erased {name : String} (h : name ∈ optionalEraseFields) :
    (editProperties read plan).lookup name =
      (read.lookup name).map fun _ => Scalar.bool false := by
  have hfixed : name ∉ fixedNames := fun hfixed =>
    fields_apart.1 name hfixed h
  have hdenied : name ∉ deleteBeforePutFields := fun hdenied =>
    (fields_apart.2.1 name hdenied).2 h
  have hzeroed : name ∉ zeroIfPresentFields := fun hzeroed =>
    (fields_apart.2.2 name hzeroed).2.1 h
  rw [lookup_editProperties, hasKey_eq, lookup_fixed_none plan hfixed,
    if_neg hdenied, if_neg hzeroed]
  cases read.lookup name with
  | none => simp
  | some old => simp [h]

theorem lookup_edit_other {name : String}
    (hdenied : name ∉ deleteBeforePutFields)
    (hzeroed : name ∉ zeroIfPresentFields) (hfixed : name ∉ fixedNames)
    (herase : name ∉ optionalEraseFields) :
    (editProperties read plan).lookup name = read.lookup name := by
  rw [lookup_editProperties, if_neg fun hboth => herase hboth.1,
    lookup_fixed_none plan hfixed, if_neg hdenied, if_neg hzeroed]
  rfl

end Edit

/-!
## Edited twice
-/

theorem foldl_unchanged {alpha beta : Type} {f : beta -> alpha -> beta}
    {b : beta} {steps : List alpha}
    (h : forall step, step ∈ steps -> f b step = b) :
    steps.foldl f b = b := by
  induction steps with
  | nil => rfl
  | cons step rest ih =>
      rw [List.foldl_cons, h step List.mem_cons_self]
      exact ih fun other hother => h other (List.mem_cons_of_mem _ hother)

theorem popField_absent {properties : Properties} {name : String}
    (h : properties.lookup name = none) :
    popField properties name = properties := by
  apply List.filter_eq_self.mpr
  intro entry hentry
  have hne := bne_iff_ne.mp (List.lookup_eq_none_iff.mp h entry hentry)
  exact decide_eq_true (Ne.symm hne)

theorem editProperties_again (read : Properties) (plan : BootPlan) :
    editProperties (editProperties read plan) plan =
      editProperties read plan := by
  have hpop : deleteBeforePutFields.foldl popField
      (editProperties read plan) = editProperties read plan :=
    foldl_unchanged fun name hname =>
      popField_absent (lookup_edit_denied read plan hname)
  have hzero : zeroIfPresentFields.foldl zeroIfPresent
      (editProperties read plan) = editProperties read plan := by
    apply foldl_unchanged
    intro name hname
    have hlookup := lookup_edit_zeroed read plan hname
    rw [zeroIfPresent, hasKey_eq]
    cases hread : read.lookup name with
    | none =>
        rw [hlookup, hread]
        rfl
    | some old =>
        rw [hread] at hlookup
        rw [hlookup]
        exact assign_of_lookup hlookup
  have hset : (fixedFields plan).foldl setField (editProperties read plan) =
      editProperties read plan :=
    foldl_unchanged fun field hfield =>
      assign_of_lookup (lookup_edit_fixed read plan hfield)
  have herase : optionalEraseFields.foldl
      (eraseIfKnown (editProperties read plan)) (editProperties read plan) =
        editProperties read plan := by
    apply foldl_unchanged
    intro name hname
    have hlookup := lookup_edit_erased read plan hname
    rw [eraseIfKnown, hasKey_eq]
    cases hread : read.lookup name with
    | none =>
        rw [hlookup, hread]
        rfl
    | some old =>
        rw [hread] at hlookup
        rw [hlookup]
        exact assign_of_lookup hlookup
  rw [editProperties, hpop, hzero, hset, herase]

/-!
## What a Put of a plan is made of
-/

/-- What is written is what was read, but for the fields that it must not
have, those that are set, and the erase fields that it has. -/
structure EditsOnly (plan : BootPlan) (read : Instance) (put : Properties) :
    Prop where
  denied : forall name, name ∈ deleteBeforePutFields ->
    hasKey name put = false
  kept : forall name, name ∉ deleteBeforePutFields ->
    name ∉ zeroIfPresentFields ->
    name ∉ (fixedFields plan).map Prod.fst ->
    name ∉ optionalEraseFields ->
      put.lookup name = (read.lookup name).map Scalar.parsed
  zeroed : put.lookup "UefiBootNumberOfParams" =
    if hasKey "UefiBootNumberOfParams" read then some (Scalar.int 0) else none
  erased : forall name, name = "SecureErase" ∨ name = "PlatformErase" ->
    put.lookup name =
      if hasKey name read then some (Scalar.bool false) else none
  ider : put.lookup "UseIDER" =
    some (Scalar.bool
      (plan.bootSourceInstanceId.isNone && !plan.biosSetup))
  edited : put = editProperties (parsedProperties read) plan
  again : editProperties put plan = put

theorem buildBootPlan_ider {target : String} {plan : BootPlan}
    (h : buildBootPlan target = Except.ok plan) :
    plan.useIder = (plan.bootSourceInstanceId.isNone && !plan.biosSetup) := by
  rcases buildBootPlan_row h with ⟨_, hsource, hider, hbios⟩
  rw [hsource, hider, hbios]
  cases plan.target <;> rfl

theorem map_const_eq (read : Instance) (name : String) (value : Scalar) :
    ((parsedProperties read).lookup name).map (fun _ => value) =
      if hasKey name read then some value else none := by
  rw [lookup_parsedProperties, hasKey_eq]
  cases read.lookup name with
  | none => rfl
  | some old => rfl

theorem buildPutProperties_editsOnly {target : String} {plan : BootPlan}
    (h : buildBootPlan target = Except.ok plan) (read : Instance) :
    EditsOnly plan read (buildPutProperties read plan) := by
  rw [buildPutProperties_eq]
  constructor
  · intro name hname
    rw [hasKey_eq, lookup_edit_denied _ plan hname]
    rfl
  · intro name hdenied hzeroed hfixed herase
    rw [lookup_edit_other _ plan hdenied hzeroed hfixed herase,
      lookup_parsedProperties]
  · rw [lookup_edit_zeroed _ plan (by decide), map_const_eq]
  · intro name hname
    have herase : name ∈ optionalEraseFields := by
      rcases hname with rfl | rfl
      · decide
      · decide
    rw [lookup_edit_erased _ plan herase, map_const_eq]
  · have hfield : ("UseIDER", Scalar.bool plan.useIder) ∈ fixedFields plan := by
      simp [fixedFields]
    rw [← buildBootPlan_ider h]
    exact lookup_edit_fixed _ plan hfield
  · rfl
  · exact editProperties_again _ plan

theorem buildPutProperties_editsOnly_cdrom :
    EditsOnly
      { target := BootTarget.iderCdrom
        bootSourceInstanceId := none
        useIder := true
        iderBootDevice := 1
        biosSetup := false
        exclusive := by decide }
      [("ElementName", Value.text "boot"), ("PlatformErase", Value.text "true")]
      (buildPutProperties
        [("ElementName", Value.text "boot"),
          ("PlatformErase", Value.text "true")]
        { target := BootTarget.iderCdrom
          bootSourceInstanceId := none
          useIder := true
          iderBootDevice := 1
          biosSetup := false
          exclusive := by decide }) :=
  @buildPutProperties_editsOnly "ider_cdrom" _ rfl _

end AmtBoot
end IntelAmt
