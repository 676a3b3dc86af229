import IntelAmt.Wsman.MethodSuccess

/-!
# Pages

An enumeration whose instances come in pages.  A page is a response with up to
three parts, the items, the next context and the end of the sequence, in any
order and between any other elements; what is enumerated does not depend on
how the instances are spread over the pages.
-/

namespace IntelAmt
namespace Wsman

open Foundation

/-!
## Elements found by their names
-/

/-- The names that a response is searched for. -/
def pageNames : List String :=
  ["Items", "EndOfSequence", "EnumerationContext", "Fault"]

/-- No element in it has one of these names, nor has it one itself. -/
def Plain (element : Element) : Prop :=
  forall found, found ∈ element.iter -> nameOf found ∉ pageNames

/-- No element below it has one of these names. -/
def Shallow (element : Element) : Prop :=
  forall found, found ∈ iterAll element.children -> nameOf found ∉ pageNames

theorem iterAll_flatMap (elements : List Element) :
    iterAll elements = elements.flatMap Element.iter := by
  induction elements with
  | nil => rw [iterAll, List.flatMap_nil]
  | cons element rest ih => rw [iterAll, ih, List.flatMap_cons]

theorem iter_eq (element : Element) :
    element.iter = element :: iterAll element.children := by
  rcases element with ⟨tag, attributes, text, children⟩
  rw [Element.iter]

theorem shallow_of_plain {element : Element}
    (h : forall child, child ∈ element.children -> Plain child) :
    Shallow element := by
  intro found hfound
  rw [iterAll_flatMap] at hfound
  rcases List.mem_flatMap.mp hfound with ⟨child, hchild, hmem⟩
  exact h child hchild found hmem

theorem findByLocalName_eq (element : Element) (name : String) :
    findByLocalName element name =
      (childrenNamed name element.iter).head? := by
  rw [findByLocalName, childrenNamed, List.head?_filter]
  rfl

section Named

variable {name : String} (hname : name ∈ pageNames)

include hname

theorem childrenNamed_below {element : Element} (h : Shallow element) :
    childrenNamed name (iterAll element.children) = [] := by
  apply List.filter_eq_nil_iff.mpr
  intro found hfound heq
  rw [decide_eq_true_eq] at heq
  exact h found hfound (heq ▸ hname)

theorem childrenNamed_iterAll {elements : List Element}
    (h : forall element, element ∈ elements -> Shallow element) :
    childrenNamed name (iterAll elements) = childrenNamed name elements := by
  induction elements with
  | nil => rw [iterAll]
  | cons element rest ih =>
      have hrest := ih fun other hother =>
        h other (List.mem_cons_of_mem _ hother)
      have hbelow := childrenNamed_below hname (h element List.mem_cons_self)
      have hsplit : childrenNamed name (iterAll (element :: rest)) =
          childrenNamed name element.iter ++
            childrenNamed name (iterAll rest) := by
        rw [iterAll]
        exact List.filter_append ..
      rw [hsplit, hrest, iter_eq]
      by_cases heq : nameOf element = name
      · rw [childrenNamed_same heq, hbelow, childrenNamed_same heq]
        rfl
      · rw [childrenNamed_other heq, hbelow, childrenNamed_other heq]
        rfl

end Named

/-!
## Pages
-/

/-- The parts of a page: the instances if it has items, the text of its context
if it has one, and whether it ends the sequence. -/
structure Page where
  items : Option (List Element)
  context : Option (Option String)
  ends : Bool

def Page.instances (page : Page) : List Element := page.items.getD []

/-- The context that a page hands on; the last page hands on none. -/
def Page.next (page : Page) : Option String :=
  if page.ends then none
  else page.context.join.filter fun context => context ≠ ""

/-- The body of a response that carries a page. -/
structure Page.Carried (page : Page) (body : Element) : Prop where
  tag : body.tag = qualified soapNs "Body"
  response : exists response, body.children = [response] ∧
    nameOf response ∉ pageNames ∧
    (forall part, part ∈ response.children ->
      nameOf part ≠ "Fault" ∧ (nameOf part ≠ "Items" -> Shallow part)) ∧
    (childrenNamed "Items" response.children).map Element.children =
      page.items.toList ∧
    (childrenNamed "EnumerationContext" response.children).map Element.text =
      page.context.toList ∧
    (childrenNamed "EndOfSequence" response.children).length =
      page.ends.toNat

/-- A response that is answered with a body. -/
structure Answers (response : Response) (body : Element) : Prop where
  authorized : response.statusCode ≠ 401
  ok : response.ok = true
  envelope : exists root, response.document = Except.ok root ∧
    localName root.tag = "Envelope" ∧ namespaceOf root.tag = some soapNs ∧
    (root.children.find? fun child => child.tag = qualified soapNs "Body") =
      some body

theorem handleResponse_answers {client : Client} {response : Response}
    {body : Element} (operation : String) (h : Answers response body)
    (hfault : findByLocalName body "Fault" = none) :
    handleResponse client operation response = Except.ok body := by
  rcases h.envelope with ⟨root, hdocument, hname, hnamespace, hbody⟩
  have hroot : ¬ (localName root.tag ≠ "Envelope" ∨
      namespaceOf root.tag ≠ some soapNs) := by
    rw [hname, hnamespace]
    simp
  simp only [handleResponse]
  rw [if_neg h.authorized, h.ok, hdocument]
  simp only [Bool.not_true, Bool.false_eq_true, if_false, if_neg hroot]
  rw [hbody]
  simp only [raiseForFault, hfault]
  rfl

section Parts

variable {page : Page} {body : Element}

theorem nameOf_body (h : body.tag = qualified soapNs "Body") :
    nameOf body = "Body" := by
  rw [nameOf, h]
  exact localName_qualified soapNs (by decide)

theorem Page.Carried.parts (h : page.Carried body)
    (hplain : forall element, element ∈ page.instances -> Plain element) :
    exists parts,
      (forall name, name ∈ pageNames ->
        findByLocalName body name = (childrenNamed name parts).head?) ∧
      childrenNamed "Fault" parts = [] ∧
      (childrenNamed "Items" parts).map Element.children =
        page.items.toList ∧
      (childrenNamed "EnumerationContext" parts).map Element.text =
        page.context.toList ∧
      (childrenNamed "EndOfSequence" parts).length = page.ends.toNat := by
  rcases h.response with
    ⟨response, hresponse, hname, hparts, hitems, hcontext, hends⟩
  have hshallow : forall part, part ∈ response.children -> Shallow part := by
    intro part hpart
    by_cases hitem : nameOf part = "Items"
    · have hmem : part.children ∈ page.items.toList := by
        rw [← hitems]
        apply List.mem_map_of_mem
        exact List.mem_filter.mpr ⟨hpart, decide_eq_true hitem⟩
      apply shallow_of_plain
      intro child hchild
      apply hplain
      rw [Page.instances, Option.mem_toList.mp hmem]
      exact hchild
    · exact (hparts part hpart).2 hitem
  refine ⟨response.children, ?_, ?_, hitems, hcontext, hends⟩
  · intro name hmem
    have hbody : nameOf body ≠ name := by
      rw [nameOf_body h.tag]
      intro heq
      rw [← heq] at hmem
      exact absurd hmem (by decide)
    have hother : nameOf response ≠ name := fun heq => hname (heq ▸ hmem)
    rw [findByLocalName_eq, iter_eq, hresponse, childrenNamed_other hbody,
      iterAll, iterAll, List.append_nil, iter_eq,
      childrenNamed_other hother, childrenNamed_iterAll hmem hshallow]
  · apply List.filter_eq_nil_iff.mpr
    intro part hpart heq
    exact (hparts part hpart).1 (of_decide_eq_true heq)

theorem head?_text (found : List Element) :
    contextOf found.head? =
      ((found.map Element.text).head?.join.filter
        fun context => context ≠ "") := by
  cases found with
  | nil => rfl
  | cons element rest => rfl

variable (h : page.Carried body)
variable (hplain : forall element, element ∈ page.instances -> Plain element)

include h hplain

theorem Page.Carried.noFault : findByLocalName body "Fault" = none := by
  rcases h.parts hplain with ⟨parts, hfind, hfault, _⟩
  rw [hfind "Fault" (by decide), hfault]
  rfl

theorem Page.Carried.pageItems :
    pageItems body = page.instances.map elementToValue := by
  rcases h.parts hplain with ⟨parts, hfind, _, hitems, _⟩
  rw [Wsman.pageItems, hfind "Items" (by decide), Page.instances]
  cases hfound : childrenNamed "Items" parts with
  | nil =>
      rw [hfound] at hitems
      rw [Option.toList_eq_nil_iff.mp hitems.symm]
      rfl
  | cons found rest =>
      rw [hfound, List.map_cons] at hitems
      cases hpage : page.items with
      | none =>
          rw [hpage] at hitems
          cases hitems
      | some instances =>
          rw [hpage] at hitems
          have hsame : found.children = instances :=
            (List.cons.inj hitems).1
          rw [← hsame]
          rfl

theorem Page.Carried.context :
    contextOf (findByLocalName body "EnumerationContext") =
      page.context.join.filter fun context => context ≠ "" := by
  rcases h.parts hplain with ⟨parts, hfind, _, _, hcontext, _⟩
  rw [hfind "EnumerationContext" (by decide), head?_text, hcontext]
  cases page.context with
  | none => rfl
  | some text => rfl

theorem Page.Carried.nextContext : nextContext body = page.next := by
  rcases h.parts hplain with ⟨parts, hfind, _, _, _, hends⟩
  rw [Wsman.nextContext, hfind "EndOfSequence" (by decide), Page.next]
  cases hpage : page.ends with
  | true =>
      rw [hpage] at hends
      rcases List.length_eq_one_iff.mp hends with ⟨found, hfound⟩
      rw [hfound]
      rfl
  | false =>
      rw [hpage] at hends
      rw [List.length_eq_zero_iff.mp hends]
      exact h.context hplain

end Parts

/-!
## Enumerations
-/

/-- A page as it is answered with. -/
structure Delivered where
  page : Page
  response : Response
  body : Element
  answers : Answers response body
  carried : page.Carried body

/-- What an Enumerate request is answered with. -/
def Page.opening (context : String) : Page where
  items := none
  context := some (some context)
  ends := false

/-- Every page but the last one hands on a context. -/
def Chained : List Page -> Prop
  | [] => False
  | [last] => last.next = none
  | page :: rest => page.next ≠ none ∧ Chained rest

/-- One Pull for each page, with the context of the page before. -/
def pullLog (uri : String) : String -> List Delivered -> Log
  | _, [] => []
  | context, delivered :: rest =>
      ⟨WsmanOp.post (pullRequest uri context),
        PostResult.response delivered.response⟩ ::
          pullLog uri (delivered.page.next.getD "") rest

section Enumerations

variable (client : Client) {resourceClass uri : String}

theorem after_execute (request : Request) {operation : String}
    {response : Response} {body : Element} (retryable : Bool)
    (h : handleResponse client operation response = Except.ok body) :
    Script.After (execute client request operation retryable)
      [⟨WsmanOp.post request, PostResult.response response⟩]
      (Script.returned body) := by
  have hsettle : forall retry : AmtError -> WsmanScript Element,
      settle client operation retry (PostResult.response response) =
        Script.returned body := by
    intro retry
    rw [settle, h]
    rfl
  have hpost : forall retry : AmtError -> WsmanScript Element,
      Script.After
        (Script.call (WsmanOp.post request) fun result =>
          settle client operation retry result)
        [⟨WsmanOp.post request, PostResult.response response⟩]
        (Script.returned body) := by
    intro retry
    apply Script.After.call
    rw [hsettle retry]
    exact Script.After.here _
  rw [execute]
  cases (if retryable then client.maxRetries.toNat else 0) with
  | zero => exact hpost raiseAmt
  | succ left => exact hpost fun _ => postUpTo client request operation left

theorem Delivered.handled (client : Client) (delivered : Delivered)
    (operation : String) (hplain : forall element,
      element ∈ delivered.page.instances -> Plain element) :
    handleResponse client operation delivered.response =
      Except.ok delivered.body :=
  handleResponse_answers operation delivered.answers
    (delivered.carried.noFault hplain)

/-- The Pulls from a context on, by induction over the pages. -/
theorem pullFrom_pages {pages : List Delivered} {pulls : Nat}
    (context : String) (items : List Value)
    (hchained : Chained (pages.map Delivered.page))
    (hplain : forall delivered, delivered ∈ pages -> forall element,
      element ∈ delivered.page.instances -> Plain element)
    (hpulls : pages.length ≤ pulls) :
    Script.After
      (pullFrom client resourceClass uri pulls (some context) items)
      (pullLog uri context pages)
      (Script.returned (items ++
        (pages.flatMap fun delivered => delivered.page.instances).map
          elementToValue)) := by
  induction pages generalizing context items pulls with
  | nil => cases hchained
  | cons delivered rest ih =>
      cases pulls with
      | zero => cases hpulls
      | succ pulls =>
          have hown := hplain delivered List.mem_cons_self
          have hpage := delivered.carried.pageItems hown
          have hnext := delivered.carried.nextContext hown
          have hpulled := Script.after_then
            (f := fun page => pullFrom client resourceClass uri pulls
              (nextContext page) (items ++ pageItems page))
            (after_execute client (pullRequest uri context) true
              (delivered.handled client ("Pull " ++ resourceClass) hown))
          rw [hpage, hnext] at hpulled
          rw [pullLog, List.flatMap_cons, List.map_append,
            ← List.append_assoc]
          apply Script.after_append hpulled
          cases rest with
          | nil =>
              have hlast : delivered.page.next = none := hchained
              rw [hlast, List.flatMap_nil, List.map_nil, List.append_nil,
                pullFrom]
              exact Script.After.here _
          | cons second others =>
              rcases hchained with ⟨hmore, hothers⟩
              rcases Option.ne_none_iff_exists'.mp hmore with ⟨next, hnext⟩
              rw [hnext]
              apply ih next _ hothers
              · exact fun other hother =>
                  hplain other (List.mem_cons_of_mem _ hother)
              · exact Nat.le_of_succ_le_succ hpulls

/-- However the instances are spread over pages, they are enumerated in their
order, with one Enumerate and one Pull for each page. -/
theorem enumerate_paged {selectors : List (String × String)}
    (huri : resourceUri resourceClass = Except.ok uri)
    {opening : Delivered} {first : String} (hfirst : first ≠ "")
    (hopening : opening.page = Page.opening first)
    {pages : List Delivered} {instances : List Element}
    (hchained : Chained (pages.map Delivered.page))
    (hspread : instances =
      pages.flatMap fun delivered => delivered.page.instances)
    (hplain : forall element, element ∈ instances -> Plain element)
    {pulls : Nat} (hpulls : pages.length ≤ pulls) :
    Script.After (enumerate client pulls resourceClass selectors)
      (⟨WsmanOp.post (enumerateRequest uri selectors),
        PostResult.response opening.response⟩ :: pullLog uri first pages)
      (Script.returned (instances.map elementToValue)) := by
  have hnone : forall element,
      element ∈ opening.page.instances -> Plain element := by
    rw [hopening]
    exact fun _ hmem => absurd hmem List.not_mem_nil
  have hcontext :
      contextOf (findByLocalName opening.body "EnumerationContext") =
        some first := by
    rw [opening.carried.context hnone, hopening]
    exact Option.filter_some_pos (decide_eq_true hfirst)
  have hopened := Script.after_then
    (f := fun body => pullFrom client resourceClass uri pulls
      (contextOf (findByLocalName body "EnumerationContext")) [])
    (after_execute client (enumerateRequest uri selectors) true
      (opening.handled client ("Enumerate " ++ resourceClass) hnone))
  rw [hcontext] at hopened
  have hpages := @pullFrom_pages client resourceClass uri pages pulls first
    [] hchained (fun delivered hdelivered element helement => hplain element (by
      rw [hspread]
      exact List.mem_flatMap.mpr ⟨delivered, hdelivered, helement⟩)) hpulls
  rw [List.nil_append, ← hspread] at hpages
  rw [enumerate, huri]
  exact Script.after_append hopened hpages

end Enumerations

/-!
## A rendering
-/

def itemsElement (instances : List Element) : Element where
  tag := qualified enumerationNs "Items"
  children := instances

def contextElement (text : Option String) : Element where
  tag := qualified enumerationNs "EnumerationContext"
  text := text

def endElement : Element where
  tag := qualified enumerationNs "EndOfSequence"

def Page.parts (page : Page) : List Element :=
  page.items.toList.map itemsElement ++
    page.context.toList.map contextElement ++
      (if page.ends then [endElement] else [])

/-- The body that a page comes in. -/
def Page.body (page : Page) : Element where
  tag := qualified soapNs "Body"
  children :=
    [{ tag := qualified enumerationNs "PullResponse"
       children := page.parts }]

theorem nameOf_itemsElement (instances : List Element) :
    nameOf (itemsElement instances) = "Items" :=
  localName_qualified _ (by decide)

theorem nameOf_contextElement (text : Option String) :
    nameOf (contextElement text) = "EnumerationContext" :=
  localName_qualified _ (by decide)

theorem nameOf_endElement : nameOf endElement = "EndOfSequence" :=
  localName_qualified _ (by decide)

theorem mem_parts {page : Page} {part : Element} (h : part ∈ page.parts) :
    (exists instances, part = itemsElement instances) ∨
      (exists text, part = contextElement text) ∨ part = endElement := by
  rcases page with ⟨items, context, ends⟩
  cases items <;> cases context <;> cases ends <;>
    simp [Page.parts] at h <;> grind

theorem childrenNamed_parts (page : Page) :
    childrenNamed "Items" page.parts = page.items.toList.map itemsElement ∧
      childrenNamed "EnumerationContext" page.parts =
        page.context.toList.map contextElement ∧
      childrenNamed "EndOfSequence" page.parts =
        if page.ends then [endElement] else [] := by
  rcases page with ⟨items, context, ends⟩
  cases items <;> cases context <;> cases ends <;>
    simp [Page.parts, childrenNamed, nameOf_itemsElement,
      nameOf_contextElement, nameOf_endElement]

theorem carried_body (page : Page) : page.Carried page.body where
  tag := rfl
  response := by
    rcases childrenNamed_parts page with ⟨hitems, hcontext, hends⟩
    refine ⟨_, rfl, ?_, ?_, ?_, ?_, ?_⟩
    · rw [nameOf, localName_qualified _ (by decide)]
      decide
    · intro part hpart
      rcases mem_parts hpart with ⟨instances, rfl⟩ | ⟨text, rfl⟩ | rfl
      · rw [nameOf_itemsElement]
        exact ⟨by decide, fun hother => absurd rfl hother⟩
      · rw [nameOf_contextElement]
        refine ⟨by decide, fun _ found hfound => ?_⟩
        rw [contextElement, iterAll] at hfound
        cases hfound
      · rw [nameOf_endElement]
        refine ⟨by decide, fun _ found hfound => ?_⟩
        rw [endElement, iterAll] at hfound
        cases hfound
    · dsimp only
      rw [hitems, List.map_map]
      exact List.map_id _
    · dsimp only
      rw [hcontext, List.map_map]
      exact List.map_id _
    · dsimp only
      rw [hends]
      cases page.ends with
      | true => rfl
      | false => rfl

theorem namespaceOf_envelope :
    namespaceOf (qualified soapNs "Envelope") = some soapNs := by
  decide +kernel

theorem answers_enveloped {body : Element}
    (h : body.tag = qualified soapNs "Body") :
    Answers (enveloped body) body where
  authorized := (show 200 ≠ 401 by decide)
  ok := rfl
  envelope := by
    refine ⟨_, rfl, localName_qualified _ (by decide),
      namespaceOf_envelope, ?_⟩
    exact List.find?_cons_of_pos (decide_eq_true h)

/-- An endpoint that answers with these pages, one after the other. -/
def Endpoint.paged (client : Client) (pages : Nat -> Page)
    (hplain : forall n element, element ∈ (pages n).instances ->
      Plain element) : Endpoint client where
  responses n := enveloped (pages n).body
  bodies n := (pages n).body
  wellFormed n operation :=
    handleResponse_answers operation (answers_enveloped rfl)
      ((carried_body (pages n)).noFault (hplain n))

theorem play_enumerate_page {client : Client} {pages : Nat -> Page}
    (hplain : forall n element, element ∈ (pages n).instances ->
      Plain element)
    {resourceClass uri context : String}
    (huri : resourceUri resourceClass = Except.ok uri) (position : Nat)
    (hfirst : pages position = Page.opening context) (hcontext : context ≠ "")
    (hlast : (pages (position + 1)).next = none) (pulls : Nat) :
    Script.play (Endpoint.paged client pages hplain).answers position
        (enumerate client (pulls + 1) resourceClass) =
      (Except.ok ((pages (position + 1)).instances.map elementToValue),
        position + 2) := by
  have hopens : contextOf
      (findByLocalName (pages position).body "EnumerationContext") =
        some context := by
    rw [(carried_body _).context (hplain position), hfirst]
    simp [Page.opening, hcontext]
  have hbodies : (Endpoint.paged client pages hplain).bodies =
      fun n => (pages n).body := rfl
  rw [play_enumerate _ huri, hbodies, hopens, play_pullFrom, hbodies,
    (carried_body _).nextContext (hplain (position + 1)), hlast,
    (carried_body _).pageItems (hplain (position + 1)), pullFrom]
  rfl

/-- The page in a response of its own. -/
def Page.delivered (page : Page) : Delivered where
  page := page
  response := enveloped page.body
  body := page.body
  answers := answers_enveloped rfl
  carried := carried_body page

/-- One instance on the first of two pages, and none on the last one. -/
theorem enumerate_paged_two :
    let source : Element := { tag := "CIM_BootSourceSetting", text := some "x" }
    let pages : List Delivered :=
      [Page.delivered ⟨some [source], some (some "2"), false⟩,
        Page.delivered ⟨none, none, true⟩]
    Script.After
      (enumerate { endpoint := "h:16993" } 2 "CIM_BootSourceSetting")
      (⟨WsmanOp.post (enumerateRequest
          ("http://schemas.dmtf.org/wbem/wscim/1/cim-schema/2/" ++
            "CIM_BootSourceSetting") []),
        PostResult.response (Page.opening "1").delivered.response⟩ ::
        pullLog ("http://schemas.dmtf.org/wbem/wscim/1/cim-schema/2/" ++
          "CIM_BootSourceSetting") "1" pages)
      (Script.returned ([source].map elementToValue)) := by
  intro source pages
  have huri : resourceUri "CIM_BootSourceSetting" = Except.ok
      ("http://schemas.dmtf.org/wbem/wscim/1/cim-schema/2/" ++
        "CIM_BootSourceSetting") := rfl
  have hplain : forall element, element ∈ [source] -> Plain element := by
    intro element helement found hfound
    rw [List.mem_singleton.mp helement, Element.iter, iterAll,
      List.mem_singleton] at hfound
    rw [hfound]
    decide +kernel
  exact @enumerate_paged { endpoint := "h:16993" } "CIM_BootSourceSetting" _
    [] huri (Page.opening "1").delivered "1" (by decide) rfl pages [source]
    ⟨by decide, rfl⟩ rfl hplain 2 (Nat.le_refl 2)

end Wsman
end IntelAmt
