import IntelAmt.Foundation.Dict
import IntelAmt.Wsman.Client

/-!
# Writing back what was read

An instance that is read, written by a Put and read again.  The parser makes
texts, lists and dictionaries; what is written is always a text.
-/

namespace IntelAmt
namespace Wsman

/-!
## Texts
-/

theorem localName_braceless (tag : String) :
    '\x7d' ∉ (localName tag).toList := by
  rw [localName, String.toList_ofList, List.mem_reverse]
  intro hmem
  have hbrace := List.mem_takeWhile_imp hmem
  simp at hbrace

theorem localName_qualified {name : String} (uri : String)
    (h : '\x7d' ∉ name.toList) : localName (qualified uri name) = name := by
  have hall : forall c, c ∈ name.toList.reverse -> c ≠ '\x7d' := by
    intro c hmem heq
    rw [heq] at hmem
    exact h (List.mem_reverse.mp hmem)
  have htag : (qualified uri name).toList.reverse =
      name.toList.reverse ++ '\x7d' :: (("\x7b" ++ uri).toList.reverse) := by
    simp [qualified]
  rw [localName, htag, List.takeWhile_append_of_pos]
  · simp
  · intro c hmem
    simpa using hall c hmem

/-!
## Dictionaries of children
-/

def Value.isText : Value -> Bool
  | Value.text _ => true
  | _ => false

theorem Value.again_isText (old value : Value) :
    (old.again value).isText = false := by
  cases old <;> rfl

theorem elementToValue_isText (element : Element) :
    (elementToValue element).isText = true ↔ element.children = [] := by
  rcases element with ⟨tag, attributes, text, children⟩
  cases children with
  | nil => exact iff_of_true rfl rfl
  | cons child rest =>
      apply iff_of_false
      · exact fun h => nomatch h
      · exact List.cons_ne_nil child rest

theorem addMember_new {name : String} {value : Value} {result : Instance}
    (h : name ∉ result.map Prod.fst) :
    addMember name value result = result ++ [(name, value)] := by
  induction result with
  | nil => rfl
  | cons entry rest ih =>
      rcases entry with ⟨key, old⟩
      simp only [List.map_cons, List.mem_cons, not_or] at h
      rw [addMember, if_neg (fun heq => h.1 heq.symm), ih h.2]
      rfl

theorem addMember_keys {name : String} {value : Value} {result : Instance}
    (h : name ∈ result.map Prod.fst) :
    (addMember name value result).map Prod.fst = result.map Prod.fst := by
  induction result with
  | nil => cases h
  | cons entry rest ih =>
      rcases entry with ⟨key, old⟩
      by_cases heq : key = name
      · rw [addMember, if_pos heq]
        rfl
      · rw [addMember, if_neg heq, List.map_cons, List.map_cons]
        rcases List.mem_cons.mp h with hkey | hmem
        · exact absurd hkey.symm heq
        · rw [ih hmem]

theorem addMember_again {name : String} (value : Value) {result : Instance}
    (h : name ∈ result.map Prod.fst) :
    exists entry, entry ∈ addMember name value result ∧
      entry.2.isText = false := by
  induction result with
  | nil => cases h
  | cons entry rest ih =>
      rcases entry with ⟨key, old⟩
      by_cases heq : key = name
      · refine ⟨(key, old.again value), ?_, Value.again_isText old value⟩
        rw [addMember, if_pos heq]
        exact List.mem_cons_self
      · rcases List.mem_cons.mp h with hkey | hmem
        · exact absurd hkey.symm heq
        · rcases ih hmem with ⟨found, hfound, htext⟩
          refine ⟨found, ?_, htext⟩
          rw [addMember, if_neg heq]
          exact List.mem_cons_of_mem _ hfound

theorem addMember_nodup {name : String} {value : Value} {result : Instance}
    (h : (result.map Prod.fst).Nodup) :
    ((addMember name value result).map Prod.fst).Nodup := by
  by_cases hmem : name ∈ result.map Prod.fst
  · rw [addMember_keys hmem]
    exact h
  · rw [addMember_new hmem, List.map_append]
    refine List.nodup_append.mpr ⟨h, List.nodup_singleton _, ?_⟩
    intro key hkey other hother heq
    rw [List.mem_singleton.mp hother] at heq
    rw [heq] at hkey
    exact hmem hkey

theorem membersOf_nodup {children : List Element} {result : Instance}
    (h : (result.map Prod.fst).Nodup) :
    ((membersOf children result).map Prod.fst).Nodup := by
  induction children generalizing result with
  | nil =>
      rw [membersOf]
      exact h
  | cons child rest ih =>
      rw [membersOf]
      exact ih (addMember_nodup h)

def nameOf (element : Element) : String := localName element.tag

/-- Nothing is lost of children without children of their own whose names are
all different. -/
theorem membersOf_distinct {children : List Element} {result : Instance}
    (h : (result.map Prod.fst ++ children.map nameOf).Nodup) :
    membersOf children result =
      result ++ children.map fun child => (nameOf child, elementToValue child) := by
  induction children generalizing result with
  | nil =>
      rw [membersOf]
      exact (List.append_nil result).symm
  | cons child rest ih =>
      have hnew : nameOf child ∉ result.map Prod.fst := by
        intro hmem
        exact (List.nodup_append.mp h).2.2 _ hmem _ List.mem_cons_self rfl
      rw [membersOf]
      change membersOf rest
        (addMember (nameOf child) (elementToValue child) result) = _
      rw [addMember_new hnew, ih]
      · rw [List.append_assoc]
        rfl
      · rw [List.map_append, List.append_assoc]
        exact h

theorem membersOf_texts {children : List Element} {result : Instance}
    (hresult : (result.map Prod.fst).Nodup)
    (h : forall entry, entry ∈ membersOf children result ->
      entry.2.isText = true) :
    (forall entry, entry ∈ result -> entry.2.isText = true) ∧
      (result.map Prod.fst ++ children.map nameOf).Nodup ∧
      forall child, child ∈ children -> child.children = [] := by
  induction children generalizing result with
  | nil =>
      rw [membersOf] at h
      refine ⟨h, ?_, fun _ hmem => nomatch hmem⟩
      rw [List.map_nil, List.append_nil]
      exact hresult
  | cons child rest ih =>
      rw [membersOf] at h
      rcases ih (addMember_nodup hresult) h with ⟨htexts, hnodup, hchildren⟩
      by_cases hmem : nameOf child ∈ result.map Prod.fst
      · rcases addMember_again (elementToValue child) hmem with
          ⟨entry, hentry, htext⟩
        rw [htexts entry hentry] at htext
        cases htext
      · have hadd : addMember (localName child.tag) (elementToValue child)
            result = result ++ [(nameOf child, elementToValue child)] :=
          addMember_new hmem
        rw [hadd] at htexts hnodup
        refine ⟨?_, ?_, ?_⟩
        · exact fun entry hentry =>
            htexts entry (List.mem_append_left _ hentry)
        · rw [List.map_append, List.append_assoc] at hnodup
          exact hnodup
        · intro other hother
          rcases List.mem_cons.mp hother with heq | hother
          · rw [heq]
            apply (elementToValue_isText child).mp
            exact htexts (nameOf child, elementToValue child)
              (List.mem_append_right _ List.mem_cons_self)
          · exact hchildren other hother

theorem mem_addMember_key {name key : String} {value : Value}
    {result : Instance} (h : key ∈ (addMember name value result).map Prod.fst) :
    key ∈ result.map Prod.fst ∨ key = name := by
  by_cases hmem : name ∈ result.map Prod.fst
  · rw [addMember_keys hmem] at h
    exact Or.inl h
  · rw [addMember_new hmem, List.map_append] at h
    rcases List.mem_append.mp h with hold | hnew
    · exact Or.inl hold
    · exact Or.inr (List.mem_singleton.mp hnew)

theorem membersOf_braceless {children : List Element} {result : Instance}
    (hresult : forall key, key ∈ result.map Prod.fst ->
      '\x7d' ∉ key.toList) :
    forall key, key ∈ (membersOf children result).map Prod.fst ->
      '\x7d' ∉ key.toList := by
  induction children generalizing result with
  | nil =>
      rw [membersOf]
      exact hresult
  | cons child rest ih =>
      rw [membersOf]
      apply ih
      intro key hkey
      rcases mem_addMember_key hkey with hold | hnew
      · exact hresult key hold
      · rw [hnew]
        exact localName_braceless child.tag

/-!
## Instances
-/

theorem singleInstance_eq {body first : Element}
    (h : body.children.head? = some first) :
    singleInstance body = membersOf first.children [] := by
  rw [singleInstance]
  cases hchildren : body.children with
  | nil =>
      rw [hchildren] at h
      cases h
  | cons found rest =>
      rw [hchildren] at h
      cases h
      rcases first with ⟨tag, attributes, text, children⟩
      cases children with
      | nil =>
          rw [membersOf]
          rfl
      | cons child others =>
          rw [membersOf]
          rfl

theorem singleInstance_empty {body : Element}
    (h : body.children.head? = none) : singleInstance body = [] := by
  rw [singleInstance, List.head?_eq_none_iff.mp h]

theorem singleInstance_nodup (body : Element) :
    ((singleInstance body).map Prod.fst).Nodup := by
  cases hfirst : body.children.head? with
  | none =>
      rw [singleInstance_empty hfirst]
      exact List.nodup_nil
  | some first =>
      rw [singleInstance_eq hfirst]
      exact membersOf_nodup List.nodup_nil

theorem singleInstance_braceless (body : Element) :
    forall key, key ∈ (singleInstance body).map Prod.fst ->
      '\x7d' ∉ key.toList := by
  cases hfirst : body.children.head? with
  | none =>
      rw [singleInstance_empty hfirst]
      exact fun _ hmem => nomatch hmem
  | some first =>
      rw [singleInstance_eq hfirst]
      exact membersOf_braceless fun _ hmem => nomatch hmem

/-- The properties of an instance that is handed to a Put as it was read. -/
def carried (found : Instance) : List (String × Param) :=
  found.map fun entry => (entry.1, Param.scalar (Scalar.parsed entry.2))

def writtenElement (uri : String) (entry : String × Value) : Element where
  tag := qualified uri entry.1
  text := some entry.2.str

theorem appendParams_carried (uri : String) (found : Instance) :
    appendParams uri (carried found) =
      Except.ok (found.map (writtenElement uri)) := by
  induction found with
  | nil => rfl
  | cons entry rest ih =>
      rw [carried, List.map_cons, appendParams]
      change (do
        let first ← Except.ok [writtenElement uri entry]
        let others ← appendParams uri (carried rest)
        pure (first ++ others)) = _
      rw [ih]
      rfl

/-- A body whose first element is an instance as a Put writes it. -/
def writtenBody (uri resourceClass : String) (children : List Element) :
    Element where
  tag := qualified soapNs "Body"
  children := (putRequest resourceClass uri [] children).body.toList

theorem singleInstance_written (uri resourceClass : String) (body : Element) :
    singleInstance
        (writtenBody uri resourceClass
          ((singleInstance body).map (writtenElement uri))) =
      (singleInstance body).map fun entry =>
        (entry.1, Value.text (strip entry.2.str)) := by
  have hnames : ((singleInstance body).map (writtenElement uri)).map nameOf =
      (singleInstance body).map Prod.fst := by
    rw [List.map_map]
    apply List.map_congr_left
    intro entry hmem
    apply localName_qualified
    exact singleInstance_braceless body _ (List.mem_map_of_mem hmem)
  rw [singleInstance_eq rfl]
  change membersOf ((singleInstance body).map (writtenElement uri)) [] = _
  rw [membersOf_distinct]
  · rw [List.nil_append, List.map_map]
    apply List.map_congr_left
    intro entry hmem
    have hname : nameOf (writtenElement uri entry) = entry.1 :=
      localName_qualified uri
        (singleInstance_braceless body _ (List.mem_map_of_mem hmem))
    simp only [Function.comp_apply, hname]
    rfl
  · rw [List.map_nil, List.nil_append, hnames]
    exact singleInstance_nodup body

/-- Writing an instance back and reading it again gives the same
dictionary. -/
def WritesBack (uri resourceClass : String) (body : Element) : Prop :=
  exists children,
    appendParams uri (carried (singleInstance body)) = Except.ok children ∧
      forall key,
        (singleInstance (writtenBody uri resourceClass children)).lookup key =
          (singleInstance body).lookup key

/-- The first element of a body has children with different names and without
children of their own. -/
def Flat (body : Element) : Prop :=
  forall first, body.children.head? = some first ->
    (first.children.map nameOf).Nodup ∧
      forall child, child ∈ first.children -> child.children = []

theorem written_of_flat {body : Element} (h : Flat body) :
    ((singleInstance body).map fun entry =>
      (entry.1, Value.text (strip entry.2.str))) = singleInstance body := by
  cases hfirst : body.children.head? with
  | none =>
      rw [singleInstance_empty hfirst]
      rfl
  | some first =>
      rcases h first hfirst with ⟨hnames, hchildren⟩
      rw [singleInstance_eq hfirst, membersOf_distinct, List.nil_append,
        List.map_map]
      · apply List.map_congr_left
        intro child hmem
        rcases child with ⟨tag, attributes, text, children⟩
        have hnone : children = [] := hchildren _ hmem
        rw [hnone]
        simp only [Function.comp_apply, elementToValue, Value.str, strip_strip]
      · rw [List.map_nil, List.nil_append]
        exact hnames

theorem flat_of_texts {body : Element}
    (h : forall entry, entry ∈ singleInstance body ->
      entry.2.isText = true) : Flat body := by
  intro first hfirst
  rw [singleInstance_eq hfirst] at h
  have hstart : (([] : Instance).map Prod.fst).Nodup := List.nodup_nil
  rcases membersOf_texts hstart h with ⟨_, hnames, hchildren⟩
  rw [List.map_nil, List.nil_append] at hnames
  exact ⟨hnames, hchildren⟩

/-- An instance is written back with what was read exactly when no property
of it comes twice or has children. -/
theorem writesBack_iff (uri resourceClass : String) (body : Element) :
    WritesBack uri resourceClass body ↔ Flat body := by
  constructor
  · intro hback
    rcases hback with ⟨children, hchildren, hlookup⟩
    rw [appendParams_carried] at hchildren
    cases hchildren
    rw [singleInstance_written] at hlookup
    apply flat_of_texts
    intro entry hmem
    have hfound := Foundation.lookup_of_mem (singleInstance_nodup body) hmem
    rw [← hlookup entry.1] at hfound
    rcases List.mem_map.mp (Foundation.mem_of_lookup hfound) with
      ⟨other, _, heq⟩
    have hvalue : Value.text (strip other.2.str) = entry.2 :=
      congrArg Prod.snd heq
    rw [← hvalue]
    rfl
  · intro hflat
    refine ⟨_, appendParams_carried uri (singleInstance body), ?_⟩
    rw [singleInstance_written, written_of_flat hflat]
    exact fun _ => rfl

/-- An instance with a property that comes twice. -/
def twoAssociations : Element where
  tag := qualified soapNs "Body"
  children :=
    [{ tag := "{urn:x}AMT_BootSettingData"
       children :=
        [{ tag := "{urn:x}Assoc", text := some "a" },
          { tag := "{urn:x}Assoc", text := some "b" }] }]

theorem twoAssociations_not_written_back :
    ¬ WritesBack "urn:x" "AMT_BootSettingData" twoAssociations := by
  intro hback
  rcases hback with ⟨children, hchildren, hlookup⟩
  rw [appendParams_carried] at hchildren
  cases hchildren
  have hread : singleInstance twoAssociations =
      [("Assoc", Value.list [Value.text "a", Value.text "b"])] := rfl
  have hassoc := hlookup "Assoc"
  rw [singleInstance_written, hread] at hassoc
  cases hassoc

end Wsman
end IntelAmt
