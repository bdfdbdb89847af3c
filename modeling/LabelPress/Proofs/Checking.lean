import LabelPress.Http.ImageQuery
import LabelPress.Proofs.Settings
import LabelPress.Zpl.Submission

/-!
# Input that was accepted

What a value is like that passes a check. A check that yields something has found it in the value:
the type of a request is the very string under that name, and the requests of a batch come from the
items of a list, one from each and in their order.

The bounds of a query for an image are written apart from those of a request. They are the same, so
what passes the former passes the latter.

## Main results

* `Checked.all_eq_ok_iff`, `required_eq_ok_iff`, `listOf_eq_ok_iff` — what checks come to together
* `RawRequest.type_of_check`, `items_of_checkBatchOf` — what requests were made from
* `RawRequest.check_of_check`, `RawRequest.checkBatch_of_checkBatch` — payloads that are texts
* `ImageQuery.request_eq` — a query for an image always has a request
* `Directive.toRequest_eq_check` — the request for a directive is checked like any other
-/

namespace LabelPress

open LabelPress.Json LabelPress.Text

variable {α β : Type}

/-! ### Checks of parts -/

namespace Validation

theorem Checked.under_eq_ok_iff {step : Step} {x : Checked α} {a : α} :
    Checked.under step x = .ok a ↔ x = .ok a := by
  cases x <;> simp [Checked.under]

theorem Checked.all_eq_ok_iff {cs : List (Checked α)} {xs : List α} :
    Checked.all cs = .ok xs ↔ cs = xs.map .ok := by
  induction cs generalizing xs with
  | nil => cases xs <;> simp [Checked.all]
  | cons c cs ih =>
    rw [Checked.all]
    constructor
    · intro h
      cases hboth : Checked.both c (Checked.all cs) with
      | error es =>
        rw [hboth] at h
        cases h
      | ok p =>
        rw [hboth] at h
        obtain ⟨hc, hcs⟩ := Checked.both_eq_ok_iff.mp hboth
        obtain rfl : p.1 :: p.2 = xs := Except.ok.inj h
        rw [hc, ih.mp hcs, List.map_cons]
    · intro h
      obtain ⟨x, more, rfl, rfl, hmore⟩ := List.map_eq_cons_iff.mp h.symm
      rw [Checked.both_eq_ok_iff (p := (x, more)) |>.mpr ⟨rfl, ih.mpr hmore.symm⟩]
      rfl

theorem required_eq_ok_iff {ms : Members} {name : String} {check : Value → Checked α} {a : α} :
    required ms name check = .ok a ↔ ∃ v, ms.get? name = some v ∧ check v = .ok a := by
  rw [required, Checked.under_eq_ok_iff]
  cases ms.get? name <;> simp [Checked.failed]

/-- A member that may be left out passes its check if it is there. -/
theorem optional_of_some {ms : Members} {name : String} {fallback : α}
    {check : Value → Checked α} {v : Value} (h : ms.get? name = some v) :
    Validation.optional ms name fallback check = Checked.under (.member name) (check v) := by
  rw [Validation.optional, h]

theorem optional_of_none {ms : Members} {name : String} {fallback : α}
    {check : Value → Checked α} (h : ms.get? name = none) :
    Validation.optional ms name fallback check = .ok fallback := by
  rw [Validation.optional, h]

theorem text_eq_ok_iff {v : Value} {t : String} : text v = .ok t ↔ v = .string t := by
  cases v <;> simp [text, Checked.failed]

theorem textBetween_eq_ok_iff {least most : Nat} {v : Value}
    {t : { t : String // least ≤ t.length ∧ t.length ≤ most }} :
    textBetween least most v = .ok t ↔ v = .string t.val := by
  rw [textBetween]
  constructor
  · intro h
    split at h
    · cases h
    next t' ht' =>
      split_ifs at h
      · cases h
        exact text_eq_ok_iff.mp ht'
      · cases h
      · cases h
  · rintro rfl
    simp only [text, dif_pos t.property.1, dif_pos t.property.2]

theorem between_val {low high : Int} (n : { m : Int // low < m ∧ m ≤ high }) :
    between low high n.val = .ok n := by
  rw [between, dif_pos n.property.1, dif_pos n.property.2]

/-- The items of a list pass a check iff each of them does. -/
theorem Checked.items_eq_ok_iff {check : Value → Checked α} {vs : List Value} {xs : List α} :
    Checked.items check vs = .ok xs ↔ vs.map check = xs.map .ok := by
  rw [Checked.items, Checked.all_eq_ok_iff, List.ext_getElem?_iff, List.ext_getElem?_iff]
  refine forall_congr' fun i => ?_
  rw [List.getElem?_mapIdx, List.getElem?_map, List.getElem?_map]
  cases vs[i]? <;> cases xs[i]? <;> simp [Checked.under_eq_ok_iff]

theorem listOf_eq_ok_iff {check : Value → Checked α} {v : Value} {xs : List α} :
    listOf check v = .ok xs ↔ ∃ vs : List Value, v = .list vs ∧ vs.map check = xs.map .ok := by
  cases v with
  | list vs => simp [listOf, Checked.items_eq_ok_iff]
  | null | bool | int | float | string | unpaired | object => simp [listOf, Checked.failed]

/-- A weaker check makes the same of a list, item by item. -/
theorem listOf_map {check : Value → Checked α} {check' : Value → Checked β} {f : α → β}
    {v : Value} {xs : List α} (hcheck : ∀ w x, check w = .ok x → check' w = .ok (f x))
    (h : listOf check v = .ok xs) : listOf check' v = .ok (xs.map f) := by
  obtain ⟨vs, rfl, hvs⟩ := listOf_eq_ok_iff.mp h
  refine listOf_eq_ok_iff.mpr ⟨vs, rfl, ?_⟩
  clear h
  induction vs generalizing xs with
  | nil =>
    obtain rfl := List.map_eq_nil_iff.mp hvs.symm
    rfl
  | cons w ws ih =>
    obtain ⟨x, more, rfl, hx, hmore⟩ := List.map_eq_cons_iff.mp hvs.symm
    rw [List.map_cons, List.map_cons, List.map_cons, hcheck w x hx.symm, ih hmore.symm]

end Validation

open LabelPress.Validation

/-! ### Requests -/

namespace Barcode

variable {form : Form} {ms : Members} {v : Value}

theorem Request.fieldsOf_eq_ok_iff {checkData : Value → Checked α} {type : TypeText} {data : α}
    {height : Option BarHeight} :
    Request.fieldsOf checkData ms = .ok (type, data, height) ↔
      required ms "type" checkType = .ok type ∧ required ms "data" checkData = .ok data ∧
        Validation.optional ms "height" none checkHeight = .ok height := by
  rw [Request.fieldsOf, Checked.both_eq_ok_iff, Checked.both_eq_ok_iff]

theorem Request.ofMembers_eq_ok_iff {r : Request} :
    Request.ofMembers ms = .ok r ↔ Request.fieldsOf text ms = .ok (r.type, r.data, r.height) := by
  rw [Request.ofMembers]
  cases Request.fieldsOf text ms with
  | error es => exact iff_of_false (fun h => nomatch h) (fun h => nomatch h)
  | ok p =>
    obtain ⟨type, data, height⟩ := r
    simp [Except.map, Prod.ext_iff]

theorem RawRequest.ofMembers_eq_ok_iff {r : RawRequest} :
    RawRequest.ofMembers ms = .ok r ↔
      Request.fieldsOf anyText ms = .ok (r.type, r.data, r.height) := by
  rw [RawRequest.ofMembers]
  cases Request.fieldsOf anyText ms with
  | error es => exact iff_of_false (fun h => nomatch h) (fun h => nomatch h)
  | ok p =>
    obtain ⟨type, data, height⟩ := r
    simp [Except.map, Prod.ext_iff]

/-- The check of a request whose members are known to pass one by one. -/
theorem Request.ofMembers_eq_ok {type : TypeText} {data : String}
    {height : Option BarHeight} (htype : ms.get? "type" = some (.string type.val))
    (hdata : ms.get? "data" = some (.string data))
    (hheight : Validation.optional ms "height" none checkHeight = .ok height) :
    Request.ofMembers ms = .ok ⟨type, data, height⟩ :=
  Request.ofMembers_eq_ok_iff.mpr (Request.fieldsOf_eq_ok_iff.mpr
    ⟨required_eq_ok_iff.mpr ⟨_, htype, textBetween_eq_ok_iff.mpr rfl⟩,
      required_eq_ok_iff.mpr ⟨_, hdata, rfl⟩, hheight⟩)

/-- **A payload that is a text** makes the request a raw one, and changes nothing else. -/
theorem RawRequest.check_of_check {r : Request} (h : Request.check form v = .ok r) :
    RawRequest.check form v = .ok (.ofRequest r) := by
  rw [Request.check] at h
  rw [RawRequest.check]
  cases hobject : object form v with
  | error es =>
    rw [hobject] at h
    cases h
  | ok ms =>
    rw [hobject] at h
    obtain ⟨htype, hdata, hheight⟩ :=
      Request.fieldsOf_eq_ok_iff.mp (Request.ofMembers_eq_ok_iff.mp h)
    obtain ⟨w, hw, htext⟩ := required_eq_ok_iff.mp hdata
    obtain rfl := text_eq_ok_iff.mp htext
    exact RawRequest.ofMembers_eq_ok_iff.mpr (Request.fieldsOf_eq_ok_iff.mpr
      ⟨htype, required_eq_ok_iff.mpr ⟨_, hw, rfl⟩, hheight⟩)

theorem checkItems_eq_ok_iff {check : Value → Checked α} {xs : List α} :
    checkItems check v = .ok xs ↔ listOf check v = .ok xs ∧ xs ≠ [] := by
  rw [checkItems]
  cases listOf check v with
  | error es => exact iff_of_false (fun h => nomatch h) (fun h => nomatch h.1)
  | ok found =>
    cases found with
    | nil =>
      refine iff_of_false (fun h => nomatch h) ?_
      rintro ⟨h, hnonempty⟩
      exact hnonempty (Except.ok.inj h).symm
    | cons x more =>
      refine iff_self_and.mpr fun h => ?_
      rw [← Except.ok.inj h]
      exact List.cons_ne_nil x more

theorem RawRequest.checkBatch_of_checkBatch {rs : List Request}
    (h : Barcode.checkBatch form v = .ok rs) :
    RawRequest.checkBatch form v = .ok (rs.map .ofRequest) := by
  rw [Barcode.checkBatch, checkBatchOf] at h
  rw [RawRequest.checkBatch, checkBatchOf]
  cases hobject : object form v with
  | error es =>
    rw [hobject] at h
    cases h
  | ok ms =>
    rw [hobject] at h
    obtain ⟨w, hw, hitems⟩ := required_eq_ok_iff.mp h
    obtain ⟨hlist, hnonempty⟩ := checkItems_eq_ok_iff.mp hitems
    exact required_eq_ok_iff.mpr ⟨w, hw, checkItems_eq_ok_iff.mpr
      ⟨listOf_map (fun _ _ => RawRequest.check_of_check) hlist,
        fun hnil => hnonempty (List.map_eq_nil_iff.mp hnil)⟩⟩

end Barcode

/-! ### Queries for images -/

namespace Http.ImageQuery

/-- The request for the barcode of a query, without checks. -/
def barcode (q : ImageQuery) : Barcode.Request :=
  ⟨q.type, q.data, q.height⟩

/-- **A query for an image always has a request,** and with its own values: what the bounds of the
query let through, those of the request do. -/
theorem request_eq (q : ImageQuery) : q.request = .ok q.barcode := by
  refine Barcode.Request.ofMembers_eq_ok rfl rfl ?_
  refine (optional_of_some rfl).trans (Checked.under_eq_ok_iff.mpr ?_)
  cases q.height with
  | none => rfl
  | some n =>
    have hbar : Barcode.barHeight n.val = .ok n := between_val n
    simp only [Option.map_some, Value.ofOption, Barcode.checkHeight, integer, hbar, Except.map]

end Http.ImageQuery

/-! ### Directives -/

namespace Zpl.Directive

/-- The members of the request for the barcode of a directive. -/
def requestMembers (d : Directive) : Members :=
  [("type", .string d.symbology.name), ("data", .string d.data), ("height", .int d.height)]

/-- **The request for a directive** is checked like any other. -/
theorem toRequest_eq_check (d : Directive) :
    d.toRequest =
      Barcode.Request.check (.model Barcode.Request.modelName) (.object d.requestMembers) := by
  have htype : required d.requestMembers "type" Barcode.checkType =
      .ok (Barcode.typeOfSymbology d.symbology) :=
    required_eq_ok_iff.mpr ⟨_, rfl, textBetween_eq_ok_iff.mpr rfl⟩
  have hdata : required d.requestMembers "data" text = .ok d.data :=
    required_eq_ok_iff.mpr ⟨_, rfl, rfl⟩
  have hheight : Validation.optional d.requestMembers "height" none Barcode.checkHeight =
      Checked.under (.member "height") ((Barcode.barHeight d.height).map some) :=
    optional_of_some (v := .int d.height) rfl
  have hcheck : Barcode.Request.check (.model Barcode.Request.modelName)
      (.object d.requestMembers) = Barcode.Request.ofMembers d.requestMembers := rfl
  rw [hcheck, Barcode.Request.ofMembers, Barcode.Request.fieldsOf, htype, hdata, hheight,
    toRequest]
  cases Barcode.barHeight d.height <;> rfl

end Zpl.Directive

end LabelPress
