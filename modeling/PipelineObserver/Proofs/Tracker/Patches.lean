import PipelineObserver.Dialogue.Transcript
import PipelineObserver.Proofs.Json.Canonical
import PipelineObserver.Proofs.Json.MergePatch
import PipelineObserver.Proofs.Json.RoundTrip
import PipelineObserver.Proofs.Tracker.Retries
/-!
What an update changes in the document of a pipeline run, if the server applies merge patches: the
labels, the annotations or the requested status, and nothing else. Updates of labels and of
annotations commute: `updates_touch_one_place`.
-/
namespace PipelineObserver

/-- The requests that were sent, in their order. -/
def sentRequests (t : List Exchange) : List Request :=
  t.filterMap fun
    | ⟨.send r, _⟩ => some r
    | _ => none

/-- What a server makes of a document that it is asked to change by a merge patch. -/
def Request.merged? (r : Request) (doc : Json) : Option Json :=
  if r.method = .patch ∧ ("Content-Type", "application/merge-patch+json") ∈ r.headers then
    (r.body.bind Json.parse?).map (Json.merge (some doc))
  else none

namespace PipelineRun

open Json (SameBut along merge mergeMembers Textual)

/-- A document that the server may hold for a pipeline run. -/
structure IsStored (p : PipelineRun) (doc : Json) : Prop where
  canonical : doc.Canonical
  apiVersion : doc.get? "apiVersion" = some (.text p.config.pipelinesApiVersion)
  kind : doc.get? "kind" = some (.text "PipelineRun")
  metadata : ∃ members, doc.get? "metadata" = some (.object members) ∧
    Table.get? "name" members = some (.text p.name)
  spec : ∃ members, doc.get? "spec" = some (.object members)

namespace Update

/-- Where an update changes a document. -/
def place : Update → List String
  | cancellation => ["spec", "status"]
  | labels _ => ["metadata", "labels"]
  | annotations _ => ["metadata", "annotations"]

/-- The labels or annotations are a map. -/
def IsMap : Update → Prop
  | cancellation => True
  | labels l | annotations l => l.Ordered

/-- What stands in the place of an update after it: the status that asks for cancellation, or an
object that holds what was there before, if that was an object, under the new entries. -/
def Sets (u : Update) (old new : Option Json) : Prop :=
  match u with
  | cancellation => new = some (.text "PipelineRunCancelled")
  | labels l | annotations l => ∃ members, new = some (.object members) ∧
      ∀ key, Table.get? key members =
        ((Table.get? key l).map .text).or (Table.get? key ((old.bind Json.object?).getD []))

/-- An update writes over something inside its place. This is no removal: what stood there was a
part of the old status or of the old value of an entry, and the status or the entry is still there,
with the new value that the update gives it. Only labels or annotations that are no object, and so
have no entries, give way to the new object as a whole. -/
def Covers (u : Update) (old new : Option Json) (rest : List Json.Selector) : Prop :=
  match u with
  | cancellation => rest ≠ [] ∧ new = some (.text "PipelineRunCancelled")
  | labels l | annotations l =>
    old.bind Json.object? = none ∨ ∃ key value inside, (key, value) ∈ l ∧
      rest = .member key :: inside ∧ inside ≠ [] ∧
      new.bind (Json.get? key) = some (.text value)

end Update

/-! ### What is sent -/

variable (p : PipelineRun)

/-- Every patch is sent unchanged. -/
theorem sentRequests_sendPatch {body missing : String} {retries : Nat} {t : List Exchange}
    {result : Except Failure Json}
    (h : (p.sendPatch body (.notFound missing) retries).run.Follows t result) :
    ∃ n, sentRequests t = List.replicate (n + 1) (p.patchRequest body) := by
  induction retries generalizing t with
  | zero =>
    rw [sendPatch_run_zero] at h
    obtain ⟨answer, rest, rfl, hrest⟩ := Dialogue.follows_ask_iff.mp h
    obtain ⟨rfl, -⟩ := Dialogue.follows_done_iff.mp hrest
    exact ⟨0, rfl⟩
  | succ retries ih =>
    rw [sendPatch_run_succ] at h
    obtain ⟨answer, rest, rfl, hrest⟩ := Dialogue.follows_ask_iff.mp h
    cases hconflict : isConflict answer with
    | false =>
      rw [hconflict] at hrest
      obtain ⟨rfl, -⟩ := Dialogue.follows_done_iff.mp hrest
      exact ⟨0, rfl⟩
    | true =>
      rw [hconflict, if_pos rfl] at hrest
      obtain ⟨_, more, rfl, hmore⟩ := Dialogue.follows_ask_iff.mp hrest
      obtain ⟨n, hn⟩ := ih hmore
      refine ⟨n + 1, ?_⟩
      rw [List.replicate_succ, ← hn]
      rfl

theorem Json.textual_ofMembers {levels : Nat} {members : List (String × Json)}
    (inside : ∀ entry ∈ members, Textual levels entry.2) :
    Textual (levels + 1) (.ofMembers members) :=
  .object (Table.ordered_foldl_insert members .nil) fun entry he =>
    inside entry ((Table.mem_foldl_insert he).resolve_right List.not_mem_nil)

theorem Json.textual_ofLabels {levels : Nat} {labels : Table String} (ordered : labels.Ordered) :
    Textual (levels + 1) (.ofLabels labels) := by
  refine .object (List.pairwise_map.mpr ordered) fun entry he => ?_
  obtain ⟨label, -, rfl⟩ := List.mem_map.mp he
  exact .text label.2

theorem textual_patch {levels : Nat} {metadata spec : List (String × Json)}
    (hmetadata : ∀ entry ∈ metadata, Textual levels entry.2)
    (hspec : ∀ entry ∈ spec, Textual levels entry.2) :
    Textual (levels + 2) (p.patch metadata spec) := by
  apply Json.textual_ofMembers
  simp only [List.forall_mem_cons, List.not_mem_nil, false_implies, implies_true, and_true]
  exact ⟨.text _, .text _,
    Json.textual_ofMembers (List.forall_mem_cons.mpr ⟨.text _, hmetadata⟩),
    Json.textual_ofMembers hspec⟩

theorem textual_document {u : Update} (h : u.IsMap) : Textual Json.deepest (u.document p) := by
  have hnone : ∀ entry ∈ ([] : List (String × Json)), Textual 125 entry.2 := by simp
  cases u with
  | cancellation => exact p.textual_patch hnone (by simp [Textual.text])
  | labels l => exact p.textual_patch (by simpa using Json.textual_ofLabels h) hnone
  | annotations l => exact p.textual_patch (by simpa using Json.textual_ofLabels h) hnone

/-- The server reads the patch as it was meant. -/
theorem merged?_request {u : Update} (h : u.IsMap) (doc : Json) :
    (u.request p).merged? doc = some (merge (some doc) (u.document p)) := by
  have hpatch : (u.request p).method = .patch ∧
      ("Content-Type", "application/merge-patch+json") ∈ (u.request p).headers :=
    ⟨rfl, List.mem_cons_self⟩
  have hbody : (u.request p).body = some (u.document p).render := rfl
  rw [Request.merged?, if_pos hpatch, hbody, Option.bind_some,
    Json.parse?_render (p.textual_document h), Option.map_some]

/-! ### What becomes of a document -/

/-- The members of a stored document, of its metadata and of its specification. -/
structure Layout (members metadata spec : Table Json) : Prop where
  ordered : members.Ordered
  apiVersion : Table.get? "apiVersion" members = some (.text p.config.pipelinesApiVersion)
  kind : Table.get? "kind" members = some (.text "PipelineRun")
  atMetadata : Table.get? "metadata" members = some (.object metadata)
  orderedMetadata : metadata.Ordered
  name : Table.get? "name" metadata = some (.text p.name)
  atSpec : Table.get? "spec" members = some (.object spec)

variable {p} {doc : Json} {members metadata spec : Table Json}

theorem IsStored.layout (h : p.IsStored doc) :
    ∃ members metadata spec, doc = .object members ∧ p.Layout members metadata spec := by
  obtain ⟨metadata, hmetadata, hname⟩ := h.metadata
  obtain ⟨spec, hspec⟩ := h.spec
  obtain ⟨members, rfl⟩ : ∃ members, doc = .object members := by
    cases doc with
    | object members => exact ⟨members, rfl⟩
    | _ => cases hmetadata
  cases h.canonical with
  | object ordered inside =>
    cases inside _ (Table.mem_of_get? hmetadata) with
    | object orderedMetadata _ =>
      exact ⟨members, metadata, spec, rfl, ordered, h.apiVersion, h.kind, hmetadata,
        orderedMetadata, hname, hspec⟩

theorem patch_eq (p : PipelineRun) (metadata spec : List (String × Json)) :
    p.patch metadata spec = .object [
      ("apiVersion", .text p.config.pipelinesApiVersion),
      ("kind", .text "PipelineRun"),
      ("metadata", .ofMembers (("name", .text p.name) :: metadata)),
      ("spec", .ofMembers spec)] := by
  have hnames : ["apiVersion", "kind", "metadata", "spec"].Pairwise (· < ·) := by decide
  exact congrArg Json.object (Table.ofList_of_ordered (List.pairwise_map.mp hnames))

/-- Of the members of a patch only those of the metadata and of the specification matter. -/
theorem Layout.merge_patch (h : p.Layout members metadata spec)
    (more change : List (String × Json)) :
    merge (some (.object members)) (p.patch more change) =
      .object (Table.insert "spec" (merge (some (.object spec)) (.ofMembers change))
        (Table.insert "metadata" (merge (some (.object metadata))
          (.ofMembers (("name", .text p.name) :: more))) members)) := by
  have hversion := Table.insert_of_get? h.ordered h.apiVersion
  have hkind := Table.insert_of_get? h.ordered h.kind
  rw [patch_eq, merge, Option.bind_some]
  simp [mergeMembers, Json.object?, Json.isNull, hversion, hkind, h.atMetadata, h.atSpec,
    Json.merge_text, Table.get?_insert, Json.ofMembers]

/-- The labels of an object under a key of it, if there are any, under new ones. -/
def relabelled (members : Table Json) (field : String) (labels : Table String) : Json :=
  merge (Table.get? field members) (.ofLabels labels)

theorem Layout.merge_labels (h : p.Layout members metadata spec) {field : String}
    (hfield : field < "name") (labels : Table String) :
    merge (some (.object members)) (p.patch [(field, .ofLabels labels)] []) =
      .object (Table.insert "metadata"
        (.object (Table.insert field (relabelled metadata field labels) metadata)) members) := by
  have hne : field ≠ "name" := fun e => String.lt_irrefl "name" (e ▸ hfield)
  have hspec : merge (some (.object spec)) (.ofMembers []) = .object spec := rfl
  have hinside : merge (some (.object metadata))
      (.ofMembers [("name", .text p.name), (field, .ofLabels labels)]) =
        .object (Table.insert field (relabelled metadata field labels) metadata) := by
    have hname : Table.get? "name" (Table.insert field (relabelled metadata field labels)
        metadata) = some (.text p.name) := by
      rw [Table.get?_insert, if_neg hne, h.name]
    have hsame := Table.insert_of_get? (Table.ordered_insert h.orderedMetadata) hname
    simpa [Json.ofMembers, Table.ofList, Table.insert, hfield, merge, mergeMembers, Json.isNull,
      Json.object?, Json.ofLabels, relabelled] using hsame
  have hspec' : Table.get? "spec" (Table.insert "metadata" (.object (Table.insert field
      (relabelled metadata field labels) metadata)) members) = some (.object spec) := by
    rw [Table.get?_insert, if_neg (by decide), h.atSpec]
  rw [h.merge_patch, hspec, hinside, Table.insert_of_get? (Table.ordered_insert h.ordered) hspec']

theorem Layout.merge_status (h : p.Layout members metadata spec) (status : String) :
    merge (some (.object members)) (p.patch [] [("status", .text status)]) = .object
      (Table.insert "spec" (.object (Table.insert "status" (.text status) spec)) members) := by
  have hmetadata : merge (some (.object metadata)) (.ofMembers [("name", .text p.name)]) =
      .object metadata := by
    have hsame := Table.insert_of_get? h.orderedMetadata h.name
    simpa [Json.ofMembers, Table.ofList, Table.insert, merge, mergeMembers, Json.isNull,
      Json.object?] using hsame
  have hspec : merge (some (.object spec)) (.ofMembers [("status", .text status)]) =
      .object (Table.insert "status" (.text status) spec) := rfl
  rw [h.merge_patch, hspec, hmetadata, Table.insert_of_get? h.ordered h.atMetadata]

/-- The document is still laid out so when something in its metadata, but for the name, changes. -/
theorem Layout.insert_metadata (h : p.Layout members metadata spec) {field : String}
    (hfield : field < "name") (v : Json) :
    p.Layout (Table.insert "metadata" (.object (Table.insert field v metadata)) members)
      (Table.insert field v metadata) spec where
  ordered := Table.ordered_insert h.ordered
  apiVersion := by rw [Table.get?_insert, if_neg (by decide), h.apiVersion]
  kind := by rw [Table.get?_insert, if_neg (by decide), h.kind]
  atMetadata := by rw [Table.get?_insert, if_pos rfl]
  orderedMetadata := Table.ordered_insert h.orderedMetadata
  name := by
    have hne : field ≠ "name" := fun e => String.lt_irrefl "name" (e ▸ hfield)
    rw [Table.get?_insert, if_neg hne, h.name]
  atSpec := by rw [Table.get?_insert, if_neg (by decide), h.atSpec]

theorem Layout.merge_labels_comm (h : p.Layout members metadata spec) {field field' : String}
    (hfield : field < "name") (hfield' : field' < "name") (hne : field ≠ field')
    (labels labels' : Table String) :
    merge (some (merge (some (.object members)) (p.patch [(field, .ofLabels labels)] [])))
        (p.patch [(field', .ofLabels labels')] []) =
      merge (some (merge (some (.object members)) (p.patch [(field', .ofLabels labels')] [])))
        (p.patch [(field, .ofLabels labels)] []) := by
  have hfirst : relabelled (Table.insert field' (relabelled metadata field' labels') metadata) field
      labels = relabelled metadata field labels := by
    rw [relabelled, Table.get?_insert, if_neg hne.symm]
    rfl
  have hsecond : relabelled (Table.insert field (relabelled metadata field labels) metadata) field'
      labels' = relabelled metadata field' labels' := by
    rw [relabelled, Table.get?_insert, if_neg hne]
    rfl
  rw [h.merge_labels hfield, h.merge_labels hfield',
    (h.insert_metadata hfield _).merge_labels hfield',
    (h.insert_metadata hfield' _).merge_labels hfield, hfirst, hsecond, Table.insert_insert,
    Table.insert_insert, Table.insert_comm hne]

/-! ### What an update touches -/

/-- An update touches only its place: every request that it sends changes the document in the same
way, nothing differs elsewhere, its place holds what the update sets there, and nothing is lost but
what is written over. -/
structure Update.Touches (u : Update) (p : PipelineRun) (doc after : Json) : Prop where
  sent : ∀ t result, (u.run p).run.Follows t result →
    sentRequests t ≠ [] ∧ ∀ r ∈ sentRequests t, r.merged? doc = some after
  elsewhere : SameBut u.place (some doc) (some after)
  there : u.Sets (doc.at? (along u.place)) (after.at? (along u.place))
  lost : ∀ path, doc.at? path ≠ none → after.at? path = none →
    ∃ rest, path = along u.place ++ rest ∧
      u.Covers (doc.at? (along u.place)) (after.at? (along u.place)) rest

theorem sent_of_merge {u : Update} (h : u.IsMap) {after : Json}
    (hafter : merge (some doc) (u.document p) = after) {t : List Exchange}
    {result : Except Failure Json} (ht : (u.run p).run.Follows t result) :
    sentRequests t ≠ [] ∧ ∀ r ∈ sentRequests t, r.merged? doc = some after := by
  rw [run_eq] at ht
  obtain ⟨n, hn⟩ := p.sentRequests_sendPatch ht
  rw [hn]
  refine ⟨by simp, fun r hr => ?_⟩
  rw [List.eq_of_mem_replicate hr, ← hafter]
  exact p.merged?_request h doc

/-- A member of a member is changed, and nothing else. -/
theorem sameBut_insert {key : String} {object : Table Json}
    (h : Table.get? key members = some (.object object)) (inner : String) (v : Json) :
    SameBut [key, inner] (some (.object members))
      (some (.object (Table.insert key (.object (Table.insert inner v object)) members))) := by
  refine .inside (fun other hne => by rw [Table.get?_insert, if_neg hne.symm]) ?_
  rw [h, Table.get?_insert, if_pos rfl]
  exact .inside (fun other hne => by rw [Table.get?_insert, if_neg hne.symm]) .here

theorem Layout.at_place (h : p.Layout members metadata spec) (field : String) :
    (Json.object members).at? (along ["metadata", field]) = Table.get? field metadata := by
  simp [along, Json.at?, Json.select?, Json.get?, h.atMetadata]

/-- The labels that were there, if any, with the new ones over them. -/
theorem get?_relabelled {labels : Table String} (ordered : labels.Ordered) (object : Table Json)
    (field : String) : ∃ under, relabelled object field labels = .object under ∧
      ∀ key, Table.get? key under = ((Table.get? key labels).map .text).or
        (Table.get? key (((Table.get? field object).bind Json.object?).getD [])) :=
  ⟨_, rfl, Json.get?_merge_labels ordered _⟩

/-- Beneath labels nothing is lost that is not written over. -/
theorem lost_relabelled {labels : Table String} (ordered : labels.Ordered) {object : Table Json}
    {field : String} {rest : List Json.Selector}
    (before : (Table.get? field object).bind (Json.at? · rest) ≠ none)
    (after : (relabelled object field labels).at? rest = none) :
    (Table.get? field object).bind Json.object? = none ∨
      ∃ key value inside, (key, value) ∈ labels ∧ rest = .member key :: inside ∧ inside ≠ [] ∧
        (relabelled object field labels).get? key = some (.text value) := by
  obtain ⟨under, hunder, hget⟩ := get?_relabelled ordered object field
  rw [hunder] at after
  cases hold : (Table.get? field object).bind Json.object? with
  | none => exact .inl rfl
  | some old =>
    have hobject : Table.get? field object = some (.object old) := by
      obtain ⟨v, hv, hvo⟩ := Option.bind_eq_some_iff.mp hold
      cases v with
      | object _ => rw [hv, Option.some.inj hvo]
      | _ => cases hvo
    rw [hobject, Option.bind_some] at before
    cases rest with
    | nil => cases after
    | cons s more =>
      cases s with
      | element i => exact absurd rfl before
      | member key =>
        cases hkey : Table.get? key labels with
        | some value =>
          have hset : (Json.object under).get? key = some (.text value) := by
            rw [Json.get?, hget, hkey]
            rfl
          refine .inr ⟨key, value, more, Table.mem_of_get? hkey, rfl, ?_, hunder ▸ hset⟩
          rintro rfl
          rw [Json.at?, Json.select?, hset] at after
          cases after
        | none =>
          have hsame := hget key
          rw [hkey, hold, Option.map_none, Option.none_or, Option.getD_some] at hsame
          have hboth : (Json.object under).at? (.member key :: more) =
              (Json.object old).at? (.member key :: more) := by
            simp [Json.at?, Json.select?, Json.get?, hsame]
          exact absurd (hboth.symm.trans after) before

/-- Something lost beneath the one place that differs. -/
theorem lost_beneath {place : List String} {old new : Json} {v w : Option Json}
    (h : SameBut place (some old) (some new)) (hv : old.at? (along place) = v)
    (hw : new.at? (along place) = w) {path : List Json.Selector} (before : old.at? path ≠ none)
    (after : new.at? path = none) : ∃ rest, path = along place ++ rest ∧
      v.bind (Json.at? · rest) ≠ none ∧ w.bind (Json.at? · rest) = none := by
  obtain ⟨rest, rfl⟩ := h.lost before after
  rw [Json.at?_append, hv] at before
  rw [Json.at?_append, hw] at after
  exact ⟨rest, rfl, before, after⟩

/-- The labels of a stored document, or its annotations, are changed. -/
theorem Layout.touches_labels (h : p.Layout members metadata spec) {u : Update} {field : String}
    {labels : Table String}
    (hu : u = .labels labels ∧ field = "labels" ∨ u = .annotations labels ∧ field = "annotations")
    (ordered : labels.Ordered) :
    u.Touches p (.object members)
      (merge (some (.object members)) (p.patch [(field, .ofLabels labels)] [])) := by
  have hfield : field < "name" := by
    rcases hu with ⟨-, rfl⟩ | ⟨-, rfl⟩ <;> decide
  have hafter := h.merge_labels hfield labels
  have hu' : u.IsMap ∧ u.document p = p.patch [(field, .ofLabels labels)] [] := by
    rcases hu with ⟨rfl, rfl⟩ | ⟨rfl, rfl⟩ <;> exact ⟨ordered, rfl⟩
  obtain ⟨hmap, hdocument⟩ := hu'
  rw [← hdocument] at hafter ⊢
  have hsent := fun t result (ht : (u.run p).run.Follows t result) => sent_of_merge hmap hafter ht
  rw [hafter]
  have hsame := sameBut_insert h.atMetadata field (relabelled metadata field labels)
  have hold := h.at_place field
  have hnew := (h.insert_metadata hfield (relabelled metadata field labels)).at_place field
  rw [Table.get?_insert, if_pos rfl] at hnew
  obtain ⟨under, hunder, hget⟩ := get?_relabelled ordered metadata field
  have hthere : ∃ under, some (relabelled metadata field labels) = some (.object under) ∧
      ∀ key, Table.get? key under = ((Table.get? key labels).map .text).or
        (Table.get? key (((Table.get? field metadata).bind Json.object?).getD [])) :=
    ⟨under, congrArg some hunder, hget⟩
  rcases hu with ⟨rfl, rfl⟩ | ⟨rfl, rfl⟩
  all_goals
    refine ⟨hsent, hsame, ?_, fun path before after => ?_⟩
    · rw [Update.place, hold, hnew]
      exact hthere
    · obtain ⟨rest, rfl, hbefore, hafter⟩ := lost_beneath hsame hold hnew before after
      rw [Update.place, hold, hnew]
      exact ⟨rest, rfl, lost_relabelled ordered hbefore hafter⟩

/-- The requested status of a stored document is changed. -/
theorem Layout.touches_status (h : p.Layout members metadata spec) :
    Update.cancellation.Touches p (.object members)
      (merge (some (.object members)) (Update.cancellation.document p)) := by
  have hafter := h.merge_status "PipelineRunCancelled"
  rw [Update.document, hafter]
  have hsame := sameBut_insert h.atSpec "status" (.text "PipelineRunCancelled")
  have hnew : (Json.object (Table.insert "spec" (.object (Table.insert "status"
      (.text "PipelineRunCancelled") spec)) members)).at? (along ["spec", "status"]) =
        some (.text "PipelineRunCancelled") := by
    simp [along, Json.at?, Json.select?, Json.get?, Table.get?_insert]
  refine ⟨fun t result ht => sent_of_merge (u := .cancellation) trivial hafter ht, hsame, hnew,
    fun path before after => ?_⟩
  obtain ⟨rest, rfl⟩ := hsame.lost before after
  refine ⟨rest, rfl, ?_, hnew⟩
  rintro rfl
  rw [List.append_nil, hnew] at after
  cases after

theorem IsStored.touches (stored : p.IsStored doc) {u : Update} (h : u.IsMap) :
    ∃ after, u.Touches p doc after := by
  obtain ⟨members, metadata, spec, rfl, layout⟩ := stored.layout
  cases u with
  | cancellation => exact ⟨_, layout.touches_status⟩
  | labels l => exact ⟨_, layout.touches_labels (.inl ⟨rfl, rfl⟩) h⟩
  | annotations l => exact ⟨_, layout.touches_labels (.inr ⟨rfl, rfl⟩) h⟩

/-- Labels and annotations end up the same in whichever order they are updated. -/
theorem IsStored.commute (stored : p.IsStored doc) {l a : Table String} (hl : l.Ordered)
    (ha : a.Ordered) : ∃ both,
      (((Update.labels l).request p).merged? doc).bind ((Update.annotations a).request p).merged? =
        some both ∧
      (((Update.annotations a).request p).merged? doc).bind ((Update.labels l).request p).merged? =
        some both := by
  obtain ⟨members, metadata, spec, rfl, layout⟩ := stored.layout
  have hlabels := merged?_request p (u := .labels l) hl
  have hannotations := merged?_request p (u := .annotations a) ha
  refine ⟨merge (some (merge (some (.object members)) ((Update.labels l).document p)))
    ((Update.annotations a).document p), ?_, ?_⟩
  · rw [hlabels, Option.bind_some, hannotations]
  · rw [hannotations, Option.bind_some, hlabels]
    exact congrArg some
      (layout.merge_labels_comm (by decide) (by decide) (by decide) a l)

/-- Updates touch only what they name. An update of the labels, of the annotations or of the
requested status of a stored document changes that one place, and loses nothing but what it writes
over. Updates of labels and of annotations commute. -/
theorem updates_touch_one_place (p : PipelineRun) (doc : Json) (stored : p.IsStored doc) :
    (∀ u : Update, u.IsMap → ∃ after, u.Touches p doc after) ∧
    ∀ l a : Table String, l.Ordered → a.Ordered → ∃ both,
      (((Update.labels l).request p).merged? doc).bind ((Update.annotations a).request p).merged? =
        some both ∧
      (((Update.annotations a).request p).merged? doc).bind ((Update.labels l).request p).merged? =
        some both :=
  ⟨fun _ h => stored.touches h, fun _ _ hl ha => stored.commute hl ha⟩

/-! A pipeline run with a label to be changed, one to be kept and annotations that are no object. -/

def labelled : PipelineRun where
  config := {
    apiUrl := "https://api.example.test"
    «namespace» := "ns"
    pipelinesApiVersion := "tekton.dev/v1beta1" }
  name := "build"

def labelledText : String :=
  "\x7b\"apiVersion\":\"tekton.dev/v1beta1\",\"kind\":\"PipelineRun\",\"metadata\":" ++
  "\x7b\"annotations\":7,\"labels\":\x7b\"team\":\"a\",\"tier\":null\x7d,\"name\":\"build\"\x7d," ++
  "\"spec\":\x7b\"params\":[\x7b\"value\":null\x7d]\x7d\x7d"

def labelledDocument : Json := .object [
  ("apiVersion", .text "tekton.dev/v1beta1"),
  ("kind", .text "PipelineRun"),
  ("metadata", .object [
    ("annotations", .ofInt 7),
    ("labels", .object [("team", .text "a"), ("tier", .null)]),
    ("name", .text "build")]),
  ("spec", .object [("params", .array [.object [("value", .null)]])])]

theorem labelled_stored : labelled.IsStored labelledDocument where
  canonical := Json.canonical_of_parse?
    (show Json.parse? labelledText = some labelledDocument by decide +kernel)
  apiVersion := rfl
  kind := rfl
  metadata := ⟨_, rfl, rfl⟩
  spec := ⟨_, rfl⟩

theorem updates_touch_one_place_labelled :
    labelled.IsStored labelledDocument ∧ Update.IsMap (.labels [("team", "b")]) ∧
    Table.Ordered [("by", "c")] ∧
    (∃ after, (Update.labels [("team", "b")]).Touches labelled labelledDocument after ∧
      ∃ labels, after.at? (along ["metadata", "labels"]) = some (.object labels) ∧
        Table.get? "team" labels = some (.text "b") ∧ Table.get? "tier" labels = some .null) ∧
    ∃ both, (((Update.labels [("team", "b")]).request labelled).merged? labelledDocument).bind
        ((Update.annotations [("by", "c")]).request labelled).merged? = some both ∧
      (((Update.annotations [("by", "c")]).request labelled).merged? labelledDocument).bind
        ((Update.labels [("team", "b")]).request labelled).merged? = some both ∧
      both.get? "metadata" = some (.object [("annotations", .object [("by", .text "c")]),
        ("labels", .object [("team", .text "b"), ("tier", .null)]), ("name", .text "build")]) := by
  have hlabels : Table.Ordered [("team", "b")] := List.pairwise_singleton ..
  have hannotations : Table.Ordered [("by", "c")] := List.pairwise_singleton ..
  obtain ⟨htouches, hcommute⟩ := updates_touch_one_place labelled labelledDocument labelled_stored
  obtain ⟨after, hafter⟩ := htouches (.labels [("team", "b")]) hlabels
  obtain ⟨both, hboth, hboth'⟩ := hcommute _ _ hlabels hannotations
  obtain ⟨labels, hat, hget⟩ := hafter.there
  have hmetadata : ((((Update.labels [("team", "b")]).request labelled).merged?
      labelledDocument).bind ((Update.annotations [("by", "c")]).request labelled).merged?).bind
        (Json.get? "metadata") =
      some (.object [("annotations", .object [("by", .text "c")]),
        ("labels", .object [("team", .text "b"), ("tier", .null)]), ("name", .text "build")]) := by
    decide +kernel
  rw [hboth] at hmetadata
  exact ⟨labelled_stored, hlabels, hannotations,
    ⟨after, hafter, labels, hat, (hget "team").trans (by decide), (hget "tier").trans (by decide)⟩,
    both, hboth, hboth', hmetadata⟩

end PipelineRun
end PipelineObserver
