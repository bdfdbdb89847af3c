import LabelPress.Proofs.Endpoint
import LabelPress.Proofs.Height
import Mathlib.Data.List.Forall2

/-!
# How a type is written

A caller may write a type in any case and with blanks around it, or write one that is not known. All
that the text decides is which symbology is meant, if any: two requests whose types mean the same
lead to the same options, the same label and the same generation. In the answers of the service the
text comes back as the type of an item, and nowhere else.

The type is read anew wherever it is needed, so every such place has its own lemma here. For the
endpoints the argument is made on jobs: two jobs that are the same up to reports answer alike as
soon as their outcomes are shown alike.

## Main definitions

* `SameBarcode` — requests that differ at most in how their type is written
* `Body.untyped` — a body without the types of its items
* `Alike` — jobs whose answers look the same and that ask the same

## Main results

* `silent_generate_of_sameBarcode`, `rasterOptions_of_sameBarcode`, `template_congr` — the places
  where a type is read
* `alike_respond` — the way back from an endpoint keeps answers alike
* `spelling` — only the symbology of a type matters
-/

namespace LabelPress

open LabelPress.Json LabelPress.Barcode LabelPress.Validation LabelPress.Zpl

namespace Barcode

/-- Two requests that differ at most in how their type is written. -/
structure SameBarcode (r r' : Request) : Prop extends SameSymbol r r' where
  /-- The heights are the same. -/
  height : r.height = r'.height

variable {r r' : Request}

/-! ### Generations -/

theorem rasterOptions_of_sameBarcode (h : SameBarcode r r') (text : String) :
    r.rasterOptions text = r'.rasterOptions text := by
  have hheight : r'.effectiveHeight = r.effectiveHeight := by
    rw [Request.effectiveHeight, Request.effectiveHeight, preset_congr h.toSameSymbol, h.height]
  rw [rasterOptions_congr h.toSameSymbol, hheight]
  rfl

/-- **Generations do not depend on how a type is written.** -/
theorem silent_generate_of_sameBarcode (c : Context) (h : SameBarcode r r') :
    (generate c r).silent = (generate c r').silent :=
  silent_generate_congr c h.toSameSymbol fun _ text => by
    rw [rasterOptions_of_sameBarcode h]

theorem silent_generateAll_congr (c : Context) {rs rs' : List Request}
    (h : List.Forall₂ SameBarcode rs rs') :
    (generateAll c rs).silent = (generateAll c rs').silent := by
  have hjobs : (rs.map (generate c)).map Job.silent = (rs'.map (generate c)).map Job.silent := by
    rw [List.map_map, List.map_map]
    induction h with
    | nil => rfl
    | cons hr _ ih =>
      rw [List.map_cons, List.map_cons, ih]
      exact congrArg (· :: _) (silent_generate_of_sameBarcode c hr)
  rw [generateAll, generateAll, Job.silent_bind, Job.silent_bind, Job.silent_sequence,
    Job.silent_sequence, hjobs]

end Barcode

namespace Zpl

theorem templateSymbology_congr {d d' : Designator} (h : d.parse? = d'.parse?) :
    templateSymbology d = templateSymbology d' := by
  rw [templateSymbology, templateSymbology, h]

theorem template_congr {d d' : Designator} (h : d.parse? = d'.parse?) (data : String) :
    template d data = template d' data := by
  rw [template, template, templateSymbology_congr h]

end Zpl

namespace Http

/-! ### Bodies without types -/

/-- A report without the type that was asked for. -/
def Item.untyped (i : Item) : Item := { i with type := "" }

/-- A reply without the types of its items. -/
def Reply.untyped : Reply → Reply
  | .item i => .item i.untyped
  | .items is => .items (is.map Item.untyped)
  | .rendered ds is => .rendered ds (is.map Item.untyped)
  | reply => reply

/-- A body without the types of its items. -/
def Body.untyped : Body → Body
  | .document reply => .document reply.untyped
  | body => body

/-- The status of a response, and what `f` makes of its body. -/
def Response.view {β : Type} (f : Body → β) (response : Response) : Nat × β :=
  (response.status, f response.body)

variable {β : Type} {f : Body → β}

/-- The report on an outcome depends on the type in nothing but the type. -/
theorem untyped_ofOutcome (type type' : String) (o : Outcome) :
    (Item.ofOutcome type o).untyped = (Item.ofOutcome type' o).untyped := by
  cases o <;> rfl

theorem untyped_itemsOf {rs rs' : List Barcode.Request} (h : List.Forall₂ SameBarcode rs rs')
    (outcomes : List Outcome) :
    (itemsOf (rs.map .ofRequest) outcomes).map Item.untyped =
      (itemsOf (rs'.map .ofRequest) outcomes).map Item.untyped := by
  induction h generalizing outcomes with
  | nil => rfl
  | cons _ _ ih =>
    cases outcomes with
    | nil => rfl
    | cons o os => exact congrArg₂ (· :: ·) (untyped_ofOutcome _ _ o) (ih os)

theorem view_barcodeAnswer (type type' : String) (o : Outcome) :
    (barcodeAnswer type o).map (Response.view Body.untyped) =
      (barcodeAnswer type' o).map (Response.view Body.untyped) := by
  cases o <;> rfl

/-! ### Answers that look the same -/

/-- **Jobs that answer alike:** whatever the engines answer, they come to responses with the same
status and with bodies that look the same, or break down for the same reason, and they ask the
engines the same queries. What is looked at is what `f` shows of a body. -/
def Alike {ε : Type} (f : Body → β) (j j' : Job (Except ε Response)) : Prop :=
  ∀ engines : Engines,
    (j.result engines).map (Response.view f) = (j'.result engines).map (Response.view f) ∧
      j.queries engines = j'.queries engines

theorem Alike.refl {ε : Type} (f : Body → β) (j : Job (Except ε Response)) : Alike f j j :=
  fun _ => ⟨rfl, rfl⟩

/-- Jobs that are the same up to reports answer alike if what they come to is shown alike. -/
theorem alike_map {α ε : Type} {j j' : Job α} (h : j.silent = j'.silent)
    {k k' : α → Except ε Response}
    (hshown : ∀ a, (k a).map (Response.view f) = (k' a).map (Response.view f)) :
    Alike f (j.map k) (j'.map k') := by
  intro engines
  obtain ⟨hresult, hqueries⟩ := Job.same_of_silent h engines
  rw [Job.result_map, Job.result_map, Job.queries_map, Job.queries_map, hresult, hqueries]
  exact ⟨hshown _, rfl⟩

variable {s : Service} {available : Bool} {store : Store} {h h' : Request} {e e' : Endpoint}

/-- Endpoints find the same settings, so their answers are alike if they are under all settings. -/
theorem alike_withRenderers {answer answer' : Settings → Context → Job Answer}
    (halike : ∀ settings c, Alike f (answer settings c) (answer' settings c)) :
    Alike f (withRenderers available store answer).1 (withRenderers available store answer').1 := by
  rw [withRenderers, withRenderers]
  rcases prepare available store with ⟨_ | found, next⟩
  · exact Alike.refl f _
  · exact halike found.1 found.2

/-- The way from an answer to the response does not touch the status and the body. -/
theorem view_conclude {a a' : Answer} (more more' : List (String × String))
    {method method' : String} (hmethod : method ≠ "HEAD") (hmethod' : method' ≠ "HEAD")
    (hview : a.map (Response.view f) = a'.map (Response.view f)) :
    ((Service.conclude more a).map (Service.trim method)).map (Response.view f) =
      ((Service.conclude more' a').map (Service.trim method')).map (Response.view f) := by
  have htrim : ∀ r, Service.trim method r = r := fun r => if_neg hmethod
  have htrim' : ∀ r, Service.trim method' r = r := fun r => if_neg hmethod'
  rcases a with b | r <;> rcases a' with b' | r'
  · obtain rfl : b = b' := Except.error.inj hview
    cases b with
    | internal => simp only [Service.conclude, Except.map, htrim, htrim']
    | abort m => rfl
  · cases hview
  · cases hview
  · have hequal : r.view f = r'.view f := Except.ok.inj hview
    simp only [Service.conclude, Except.map, htrim, htrim']
    exact congrArg Except.ok hequal

theorem method_ne_head (hreach : Reaches s h e) (hpage : e ≠ .page)
    (hdescription : e ≠ .description) : h.method ≠ "HEAD" := by
  rcases method_of_reaches hreach hpage hdescription with hm | hm <;> rw [hm] <;> decide

/-- **Requests whose answers are alike get responses that are alike,** whatever their headers. -/
theorem alike_respond (hreach : Reaches s h e) (hreach' : Reaches s h' e')
    (hpage : e ≠ .page ∧ e' ≠ .page) (hdescription : e ≠ .description ∧ e' ≠ .description)
    (halike : Alike f (s.answer available store h e).1 (s.answer available store h' e').1) :
    Alike f (s.respond available store h).1 (s.respond available store h').1 := by
  intro engines
  obtain ⟨hview, hqueries⟩ := halike engines
  obtain ⟨more, hrespond⟩ := respond_of_reaches available store hreach hpage.1 hdescription.1
  obtain ⟨more', hrespond'⟩ := respond_of_reaches available store hreach' hpage.2 hdescription.2
  rw [hrespond, hrespond', Job.result_map, Job.result_map, Job.queries_map, Job.queries_map]
  exact ⟨view_conclude more more' (method_ne_head hreach hpage.1 hdescription.1)
    (method_ne_head hreach' hpage.2 hdescription.2) hview, hqueries⟩

/-! ### The endpoints -/

variable {r r' : Barcode.Request}

theorem alike_barcode (hsame : SameBarcode r r') {v v' : Value}
    (hposts : Posts s h .barcode (Barcode.Request.check .body) v r)
    (hposts' : Posts s h' .barcode (Barcode.Request.check .body) v' r') :
    Alike Body.untyped (s.respond available store h).1 (s.respond available store h').1 := by
  refine alike_respond hposts.reaches hposts'.reaches ⟨Endpoint.noConfusion, Endpoint.noConfusion⟩
    ⟨Endpoint.noConfusion, Endpoint.noConfusion⟩ ?_
  rw [Service.answer, Service.answer, answerPosted_of_entity _ hposts.entity hposts.raw.checked,
    answerPosted_of_entity _ hposts'.entity hposts'.raw.checked]
  refine alike_withRenderers fun _ c => ?_
  rw [answerBarcode_ofRequest, answerBarcode_ofRequest]
  exact alike_map (silent_generate_of_sameBarcode c hsame) (view_barcodeAnswer _ _)

theorem alike_image (hsame : SameBarcode r r') (hasks : AsksImage s h r)
    (hasks' : AsksImage s h' r') :
    Alike id (s.respond available store h).1 (s.respond available store h').1 := by
  refine alike_respond hasks.reaches hasks'.reaches ⟨Endpoint.noConfusion, Endpoint.noConfusion⟩
    ⟨Endpoint.noConfusion, Endpoint.noConfusion⟩ ?_
  rw [Service.answer, Service.answer, hasks.checked, hasks'.checked]
  refine alike_withRenderers fun _ c => ?_
  simp only [withChecked, answerImageQuery, ImageQuery.request_eq]
  exact alike_map (silent_generate_of_sameBarcode c hsame) fun _ => rfl

/-- A batch is answered alike, but for the types of its items. -/
theorem alike_batch {rs rs' : List Barcode.Request} (hsame : List.Forall₂ SameBarcode rs rs')
    {v v' : Value} (hposts : Posts s h .batch (checkBatch .body) v rs)
    (hposts' : Posts s h' .batch (checkBatch .body) v' rs') :
    Alike Body.untyped (s.respond available store h).1 (s.respond available store h').1 := by
  refine alike_respond hposts.reaches hposts'.reaches ⟨Endpoint.noConfusion, Endpoint.noConfusion⟩
    ⟨Endpoint.noConfusion, Endpoint.noConfusion⟩ ?_
  rw [Service.answer, Service.answer,
    answerPosted_of_entity _ hposts.entity hposts.rawBatch.checked,
    answerPosted_of_entity _ hposts'.entity hposts'.rawBatch.checked]
  refine alike_withRenderers fun settings c => ?_
  rw [answerBatch, answerBatch, answerAll, answerAll, RawRequest.generateAll_ofRequest,
    RawRequest.generateAll_ofRequest, List.length_map, List.length_map, hsame.length_eq]
  split_ifs
  · exact Alike.refl _ _
  · refine alike_map (silent_generateAll_congr c hsame) fun result => ?_
    cases result with
    | error m => rfl
    | ok outcomes =>
      simp only [batchAnswer_ofRequest, Except.map, Response.view, Response.reply, Body.untyped,
        Reply.untyped, untyped_itemsOf hsame outcomes]

theorem alike_template {type type' : String}
    (hparse : Symbology.parse? type = Symbology.parse? type')
    (hreach : Reaches s h (.template type)) (hreach' : Reaches s h' (.template type'))
    (hquery : h.query = h'.query) :
    Alike id (s.respond available store h).1 (s.respond available store h').1 := by
  have hdesignator : (Designator.ofText type).parse? = (Designator.ofText type').parse? := hparse
  have hanswer : answerTemplate type = answerTemplate type' := by
    funext payload
    rw [answerTemplate, answerTemplate, templateSymbology_congr hdesignator,
      template_congr hdesignator]
  have hparameters : h.parameters = h'.parameters := by
    rw [Request.parameters, Request.parameters, hquery]
  refine alike_respond hreach hreach' ⟨Endpoint.noConfusion, Endpoint.noConfusion⟩
    ⟨Endpoint.noConfusion, Endpoint.noConfusion⟩ ?_
  rw [Service.answer, Service.answer, checkQuery, checkQuery, hparameters, hanswer]
  exact Alike.refl _ _

/-- **Only the symbology of a type matters.** Of two requests with the same payload and the same
height whose types mean the same symbology, or are both not known:

* The generations are the same up to reports: they have the same outcome and ask the same queries.
* The payload is normalised alike, and the options are the same, those of both renderers.
* The labels made for the two types are the same.
* Each endpoint answers them with the same status, and asks the engines the same. Images and labels
  are the same; the document on a barcode, and that on a batch of several such pairs, differ in the
  types of the items at most. -/
theorem spelling (hsame : SameBarcode r r') :
    (∀ c, (generate c r).silent = (generate c r').silent ∧ ∀ engines,
      (generate c r).result engines = (generate c r').result engines ∧
        (generate c r).queries engines = (generate c r').queries engines) ∧
    (normalise r = normalise r' ∧ (∀ text, r.rasterOptions text = r'.rasterOptions text) ∧
      r.dataMatrixOptions = r'.dataMatrixOptions) ∧
    (templateSymbology r.designator = templateSymbology r'.designator ∧
      ∀ data, template r.designator data = template r'.designator data) ∧
    ∀ (s : Service) (available : Bool) (store : Store) (h h' : Request),
      (∀ v v', Posts s h .barcode (Barcode.Request.check .body) v r →
        Posts s h' .barcode (Barcode.Request.check .body) v' r' →
        Alike Body.untyped (s.respond available store h).1 (s.respond available store h').1) ∧
      (∀ v v' rs rs', List.Forall₂ SameBarcode rs rs' →
        Posts s h .batch (checkBatch .body) v rs → Posts s h' .batch (checkBatch .body) v' rs' →
        Alike Body.untyped (s.respond available store h).1 (s.respond available store h').1) ∧
      (AsksImage s h r → AsksImage s h' r' →
        Alike id (s.respond available store h).1 (s.respond available store h').1) ∧
      (Reaches s h (.template r.type.val) → Reaches s h' (.template r'.type.val) →
        h.query = h'.query →
        Alike id (s.respond available store h).1 (s.respond available store h').1) := by
  refine ⟨fun c => ?_, ⟨?_, ?_, ?_⟩, ⟨?_, ?_⟩, fun s available store h h' => ⟨?_, ?_, ?_, ?_⟩⟩
  · have hsilent := silent_generate_of_sameBarcode c hsame
    exact ⟨hsilent, Job.same_of_silent hsilent⟩
  · exact normalise_congr hsame.toSameSymbol
  · exact rasterOptions_of_sameBarcode hsame
  · exact dataMatrixOptions_congr hsame.toSameSymbol
  · exact templateSymbology_congr hsame.symbology
  · exact template_congr hsame.symbology
  · exact fun v v' hposts hposts' => alike_barcode hsame hposts hposts'
  · exact fun v v' rs rs' hrs hposts hposts' => alike_batch hrs hposts hposts'
  · exact alike_image hsame
  · exact alike_template hsame.symbology

/-- A type in lower case and between blanks, and a payload whose length does not fit. The blanks
come back in the answer, and are all that tells it from the answer to the type in capitals. -/
theorem spelling_blanks :
    SameBarcode ⟨⟨" ean13 ", by decide⟩, "123", none⟩ ⟨typeOfSymbology .ean13, "123", none⟩ ∧
    Responds ⟨Settings.standard, .fixed "/api/v1"⟩ true (Store.fresh [] none) failingEncoder
        ⟨"POST", "test", "/api/v1/barcodes", "", [],
          "\x7b\"type\":\" ean13 \",\"data\":\"123\"\x7d"⟩
        200 (.document (.item (.ofOutcome " ean13 " (.warning ⟨.ean13, "123"⟩)))) ∧
    Alike Body.untyped
      (Service.respond ⟨Settings.standard, .fixed "/api/v1"⟩ true (Store.fresh [] none)
        ⟨"POST", "test", "/api/v1/barcodes", "", [],
          "\x7b\"type\":\" ean13 \",\"data\":\"123\"\x7d"⟩).1
      (Service.respond ⟨Settings.standard, .fixed "/api/v1"⟩ true (Store.fresh [] none)
        ⟨"POST", "test", "/api/v1/barcodes", "", [],
          "\x7b\"type\":\"EAN13\",\"data\":\"123\"\x7d"⟩).1 ∧
    template (.ofText " ean13 ") "123" = template (.ofText "EAN13") "123" := by
  have hsame : SameBarcode ⟨⟨" ean13 ", by decide⟩, "123", none⟩
      ⟨typeOfSymbology .ean13, "123", none⟩ := ⟨⟨by decide, rfl⟩, rfl⟩
  have hfinds : Finds true (Store.fresh [] none) Settings.standard
      ⟨⟨.int 200, .int 2, .low, ⟨0, 0, 0⟩, ⟨255, 255, 255⟩⟩, true⟩ := rfl
  have hposts : Posts ⟨Settings.standard, .fixed "/api/v1"⟩
      ⟨"POST", "test", "/api/v1/barcodes", "", [],
        "\x7b\"type\":\" ean13 \",\"data\":\"123\"\x7d"⟩
      .barcode (Barcode.Request.check .body)
      (.object [("type", .string " ean13 "), ("data", .string "123")])
      ⟨⟨" ean13 ", by decide⟩, "123", none⟩ :=
    ⟨⟨by decide, by decide⟩, by with_unfolding_all rfl, rfl⟩
  have hposts' : Posts ⟨Settings.standard, .fixed "/api/v1"⟩
      ⟨"POST", "test", "/api/v1/barcodes", "", [],
        "\x7b\"type\":\"EAN13\",\"data\":\"123\"\x7d"⟩
      .barcode (Barcode.Request.check .body)
      (.object [("type", .string "EAN13"), ("data", .string "123")])
      ⟨typeOfSymbology .ean13, "123", none⟩ :=
    ⟨⟨by decide, by decide⟩, by with_unfolding_all rfl, rfl⟩
  obtain ⟨-, -, ⟨-, htemplate⟩, hendpoints⟩ := spelling hsame
  exact ⟨hsame, responds_barcode hfinds hposts.raw rfl,
    (hendpoints _ _ _ _ _).1 _ _ hposts hposts', htemplate "123"⟩

end Http

end LabelPress
