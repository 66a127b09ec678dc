import Mathlib.Data.List.Forall2
import PipelineObserver.Proofs.Tracker.Agreement
/-!
Two documents of a resource that differ at most in fragments: in the messages that its steps left
when they terminated, and in the values of its results. Both can be read or neither can, and the
snapshots show the same steps, of which the same ones failed: `LikeDocument.snapshots`.
-/
namespace PipelineObserver

variable {α β γ δ : Type}

/-! ### Reading two values side by side -/

namespace Json

theorem rel_of_eq {P : α → α → Prop} (refl : ∀ a, P a a) {x y : Option α} (h : x = y) :
    Option.Rel P x y := by
  subst h
  cases x with
  | none => exact .none
  | some a => exact .some (refl a)

theorem rel_bind {P : α → β → Prop} {Q : γ → δ → Prop} {x : Option α} {y : Option β}
    {f : α → Option γ} {g : β → Option δ} (h : Option.Rel P x y)
    (next : ∀ a b, P a b → Option.Rel Q (f a) (g b)) : Option.Rel Q (x.bind f) (y.bind g) := by
  cases h with
  | none => exact .none
  | some h => exact next _ _ h

theorem rel_mono {P Q : α → β → Prop} {x : Option α} {y : Option β} (h : Option.Rel P x y)
    (weaker : ∀ a b, P a b → Q a b) : Option.Rel Q x y := by
  cases h with
  | none => exact .none
  | some h => exact .some (weaker _ _ h)

theorem rel_map {P : α → β → Prop} {Q : γ → δ → Prop} {x : Option α} {y : Option β} {f : α → γ}
    {g : β → δ} (h : Option.Rel P x y) (next : ∀ a b, P a b → Q (f a) (g b)) :
    Option.Rel Q (x.map f) (y.map g) := by
  cases h with
  | none => exact .none
  | some h => exact .some (next _ _ h)

theorem rel_bind_same {Q : γ → δ → Prop} {x y : Option α} {f : α → Option γ} {g : α → Option δ}
    (h : x = y) (next : ∀ a, Option.Rel Q (f a) (g a)) : Option.Rel Q (x.bind f) (y.bind g) := by
  refine rel_bind (rel_of_eq (fun _ => rfl) h) fun a b hab => ?_
  subst hab
  exact next a

theorem rel_bind_some {Q : γ → δ → Prop} {x : Option α} {y : Option β} {f : α → Option γ}
    {g : β → Option δ} {a : α} {b : β} (hx : x = some a) (hy : y = some b)
    (next : Option.Rel Q (f a) (g b)) : Option.Rel Q (x.bind f) (y.bind g) := by
  subst hx hy
  exact next

theorem rel_mapM {P : α → α → Prop} {Q : β → β → Prop} {decode : α → Option β} {as as' : List α}
    (h : List.Forall₂ P as as')
    (each : ∀ a a', P a a' → Option.Rel Q (decode a) (decode a')) :
    Option.Rel (List.Forall₂ Q) (as.mapM decode) (as'.mapM decode) := by
  induction h with
  | nil => exact .some .nil
  | cons hfirst _ ih =>
    rw [List.mapM_cons, List.mapM_cons]
    refine rel_bind (each _ _ hfirst) fun b b' hb => ?_
    exact rel_bind ih fun bs bs' hbs => .some (.cons hb hbs)

/-- Two records that say the same in every field, or differ there in an admitted way. -/
inductive LikeRecord (names : List String)
    (differ : String → Option Json → Option Json → Prop) : Json → Json → Prop
  | same (doc : Json) : LikeRecord names differ doc doc
  | apart {doc doc' : Json} {fields fields' : Table Json}
      (left : fields? names doc = some fields) (right : fields? names doc' = some fields')
      (each : ∀ name ∈ names, Table.get? name fields = Table.get? name fields' ∨
        differ name (Table.get? name fields) (Table.get? name fields')) :
      LikeRecord names differ doc doc'

/-- Two arrays that are alike element by element. -/
inductive LikeArray (P : Json → Json → Prop) : Json → Json → Prop
  | array {elements elements' : List Json} (each : List.Forall₂ P elements elements') :
      LikeArray P (.array elements) (.array elements')

theorem LikeRecord.null_iff {names : List String}
    {differ : String → Option Json → Option Json → Prop} {doc doc' : Json}
    (h : LikeRecord names differ doc doc') : doc = .null ↔ doc' = .null := by
  cases h with
  | same => rfl
  | apart left right =>
    constructor
    · rintro rfl
      cases left
    · rintro rfl
      cases right

theorem LikeArray.null_iff {P : Json → Json → Prop} {doc doc' : Json} (h : LikeArray P doc doc') :
    doc = .null ↔ doc' = .null := by
  cases h with
  | array =>
    constructor
    · intro h
      cases h
    · intro h
      cases h

theorem LikeArray.list? {P : Json → Json → Prop} {Q : α → α → Prop} {decode : Json → Option α}
    {doc doc' : Json} (h : LikeArray P doc doc')
    (each : ∀ v v', P v v' → Option.Rel Q (decode v) (decode v')) :
    Option.Rel (List.Forall₂ Q) (list? decode doc) (list? decode doc') := by
  cases h with
  | array h => exact rel_mapM h each

section Fields

variable {fields fields' : Table Json} {name : String} {decode : Json → Option α}

theorem optional?_congr (h : Table.get? name fields = Table.get? name fields') :
    optional? decode name fields = optional? decode name fields' := by
  rw [optional?, optional?, h]

theorem optional?_of_ne_null {v : Json} (h : Table.get? name fields = some v) (hv : v ≠ .null) :
    optional? decode name fields = (decode v).map some := by
  unfold optional?
  rw [h]
  cases v <;> first | rfl | exact absurd rfl hv

theorem rel_optional? {P : Json → Json → Prop} {Q : α → α → Prop}
    (h : Option.Rel P (Table.get? name fields) (Table.get? name fields'))
    (null : ∀ v v', P v v' → (v = .null ↔ v' = .null))
    (each : ∀ v v', P v v' → Option.Rel Q (decode v) (decode v')) :
    Option.Rel (Option.Rel Q) (optional? decode name fields) (optional? decode name fields') := by
  generalize hleft : Table.get? name fields = entry at h
  generalize hright : Table.get? name fields' = entry' at h
  cases h with
  | none =>
    rw [optional?, optional?, hleft, hright]
    exact .some .none
  | @some v v' h =>
    by_cases hv : v = .null
    · have hv' : v' = .null := (null v v' h).mp hv
      subst hv hv'
      rw [optional?, optional?, hleft, hright]
      exact .some .none
    · have hv' : v' ≠ .null := fun hnull => hv ((null v v' h).mpr hnull)
      rw [optional?_of_ne_null hleft hv, optional?_of_ne_null hright hv']
      exact rel_map (each v v' h) fun a a' ha => .some ha

end Fields

end Json

/-! ### Documents that differ in fragments -/

open Json (LikeRecord LikeArray)

/-- What a step may have left as its message, if anything. -/
inductive IsMessage : Option Json → Prop
  | absent : IsMessage none
  | null : IsMessage (some .null)
  | text (s : String) : IsMessage (some (.text s))

def LikeTermination : Json → Json → Prop :=
  LikeRecord ["exitCode", "reason", "message"] fun name v v' =>
    name = "message" ∧ IsMessage v ∧ IsMessage v'

def LikeStep : Json → Json → Prop :=
  LikeRecord ["name", "container", "terminated"] fun name v v' =>
    name = "terminated" ∧ Option.Rel LikeTermination v v'

def LikeResult : Json → Json → Prop :=
  LikeRecord ["name", "value"] fun name _ _ => name = "value"

/-- The fields of a status in which results stand. -/
def resultFields : List String := ["taskResults", "pipelineResults", "results"]

def LikeStatus : Json → Json → Prop :=
  LikeRecord Document.statusFields fun name v v' =>
    (name = "steps" ∧ Option.Rel (LikeArray LikeStep) v v') ∨
      (name ∈ resultFields ∧ Option.Rel (LikeArray LikeResult) v v')

/-- Two documents of a resource that differ at most in the messages of terminated steps, each
replaced by another text or left out, and in the values of results, each replaced by any value. -/
def LikeDocument : Json → Json → Prop :=
  LikeRecord Document.resourceFields fun name v v' =>
    name = "status" ∧ Option.Rel LikeStatus v v'

/-! ### Snapshots of such documents -/

/-- Two steps of one name, both of which failed or neither did. -/
structure Step.Like (s s' : Step) : Prop where
  name : s.name = s'.name
  failed : s.hasFailed = s'.hasFailed

/-- Two snapshots that show the same but for their steps, which are alike, and their results. -/
structure Snapshot.Like (s s' : Snapshot) : Prop where
  conditions : s.conditions = s'.conditions
  children : s.children = s'.children
  steps : List.Forall₂ Step.Like s.steps s'.steps

theorem Step.Like.refl (s : Step) : s.Like s := ⟨rfl, rfl⟩

theorem Step.Like.refl_list (steps : List Step) : List.Forall₂ Step.Like steps steps :=
  List.forall₂_same.mpr fun s _ => .refl s

theorem Snapshot.Like.refl (s : Snapshot) : s.Like s := ⟨rfl, rfl, Step.Like.refl_list s.steps⟩

theorem IsMessage.optional? {fields : Table Json} {name : String}
    (h : IsMessage (Table.get? name fields)) :
    ∃ message, Json.optional? Json.text? name fields = some message := by
  unfold Json.optional?
  generalize Table.get? name fields = entry at h
  cases h with
  | absent => exact ⟨none, rfl⟩
  | null => exact ⟨none, rfl⟩
  | text s => exact ⟨some s, rfl⟩

theorem LikeTermination.terminations {doc doc' : Json} (h : LikeTermination doc doc') :
    Option.Rel (fun t t' : Termination => t.exitCode = t'.exitCode)
      (Document.termination? doc) (Document.termination? doc') := by
  cases h with
  | same => exact Json.rel_of_eq (fun _ => by rfl) rfl
  | @apart _ fields fields' left right each =>
    have hexit := (each "exitCode" (by decide)).resolve_right (by simp)
    have hreason := (each "reason" (by decide)).resolve_right (by simp)
    have hmessage : Option.Rel (fun _ _ => True) (Json.optional? Json.text? "message" fields)
        (Json.optional? Json.text? "message" fields') := by
      rcases each "message" (by decide) with hsame | ⟨-, hleft, hright⟩
      · exact Json.rel_of_eq (fun _ => trivial) (Json.optional?_congr hsame)
      · obtain ⟨m, hm⟩ := hleft.optional?
        obtain ⟨m', hm'⟩ := hright.optional?
        rw [hm, hm']
        exact .some trivial
    unfold Document.termination?
    refine Json.rel_bind_some left right ?_
    refine Json.rel_bind_same (Json.optional?_congr hexit) fun exitCode => ?_
    refine Json.rel_bind_same (Json.optional?_congr hreason) fun reason => ?_
    exact Json.rel_bind hmessage fun message message' _ => .some rfl

theorem LikeStep.steps {doc doc' : Json} (h : LikeStep doc doc') :
    Option.Rel Step.Like (Document.step? doc) (Document.step? doc') := by
  cases h with
  | same => exact Json.rel_of_eq Step.Like.refl rfl
  | @apart _ fields fields' left right each =>
    have hname := (each "name" (by decide)).resolve_right (by simp)
    have hcontainer := (each "container" (by decide)).resolve_right (by simp)
    have hterminated : Option.Rel (Option.Rel fun t t' : Termination => t.exitCode = t'.exitCode)
        (Json.optional? Document.termination? "terminated" fields)
        (Json.optional? Document.termination? "terminated" fields') := by
      rcases each "terminated" (by decide) with hsame | ⟨-, hlike⟩
      · exact Json.rel_of_eq (fun _ => Json.rel_of_eq (fun _ => by rfl) rfl)
          (Json.optional?_congr hsame)
      · exact Json.rel_optional? hlike (fun _ _ => Json.LikeRecord.null_iff)
          fun _ _ => LikeTermination.terminations
    unfold Document.step?
    refine Json.rel_bind_some left right ?_
    refine Json.rel_bind_same (Json.optional?_congr hname) fun name => ?_
    refine Json.rel_bind_same (Json.optional?_congr hcontainer) fun container => ?_
    refine Json.rel_bind hterminated fun t t' ht => .some ⟨rfl, ?_⟩
    cases ht with
    | none => rfl
    | some hexit => simp only [Step.hasFailed, hexit]

theorem LikeResult.results {doc doc' : Json} (h : LikeResult doc doc') :
    Option.Rel (fun _ _ => True) (Document.result? doc) (Document.result? doc') := by
  cases h with
  | same => exact Json.rel_of_eq (fun _ => trivial) rfl
  | @apart _ fields fields' left right each =>
    have hname := (each "name" (by decide)).resolve_right (by simp)
    unfold Document.result?
    refine Json.rel_bind_some left right ?_
    have hrequired : ∀ decode : Json → Option String,
        Json.required? decode "name" fields = Json.required? decode "name" fields' := by
      intro decode
      rw [Json.required?, Json.required?, hname]
    exact Json.rel_bind_same (hrequired Json.text?) fun name => .some trivial

/-- Two statuses that are the same but for their steps, which are alike, and their results. -/
structure Document.Status.Like (s s' : Document.Status) : Prop where
  rest : s' = { s with steps := s'.steps, results := s'.results }
  steps : List.Forall₂ Step.Like s.steps s'.steps

theorem Document.Status.Like.refl (s : Document.Status) : s.Like s :=
  ⟨rfl, Step.Like.refl_list s.steps⟩

theorem LikeStatus.statuses {doc doc' : Json} (h : LikeStatus doc doc') :
    Option.Rel Document.Status.Like (Document.status? doc) (Document.status? doc') := by
  cases h with
  | same => exact Json.rel_of_eq Document.Status.Like.refl rfl
  | @apart _ fields fields' left right each =>
    have hread {name : String}
        (hname : name ∈ Document.statusFields ∧ name ≠ "steps" ∧ name ∉ resultFields) {α : Type}
        (decode : Json → Option α) :
        Json.optional? decode name fields = Json.optional? decode name fields' := by
      rcases each name hname.1 with h | ⟨h, -⟩ | ⟨h, -⟩
      · exact Json.optional?_congr h
      · exact absurd h hname.2.1
      · exact absurd h hname.2.2
    have hsteps : Option.Rel (Option.Rel (List.Forall₂ Step.Like))
        (Json.optional? (Json.list? Document.step?) "steps" fields)
        (Json.optional? (Json.list? Document.step?) "steps" fields') := by
      rcases each "steps" (by decide) with h | ⟨-, h⟩ | ⟨h, -⟩
      · exact Json.rel_of_eq (fun _ => Json.rel_of_eq Step.Like.refl_list rfl)
          (Json.optional?_congr h)
      · exact Json.rel_optional? h (fun _ _ => LikeArray.null_iff)
          fun _ _ h => h.list? fun _ _ => LikeStep.steps
      · exact absurd h (by decide)
    have hresults {name : String} (hmem : name ∈ resultFields) : Option.Rel (fun _ _ => True)
        (Json.optional? (Json.list? Document.result?) name fields)
        (Json.optional? (Json.list? Document.result?) name fields') := by
      have hfield : name ∈ Document.statusFields ∧ name ≠ "steps" := by
        revert name
        decide
      rcases each name hfield.1 with h | ⟨h, -⟩ | ⟨-, h⟩
      · exact Json.rel_of_eq (fun _ => trivial) (Json.optional?_congr h)
      · exact absurd h hfield.2
      · have hlists := Json.rel_optional? h (fun _ _ => LikeArray.null_iff)
          fun _ _ h => h.list? fun _ _ => LikeResult.results
        exact Json.rel_mono hlists fun _ _ _ => trivial
    unfold Document.status?
    refine Json.rel_bind_some left right ?_
    refine Json.rel_bind_same (hread (by decide) _) fun conditions => ?_
    refine Json.rel_bind_same (hread (by decide) _) fun start => ?_
    refine Json.rel_bind_same (hread (by decide) _) fun completion => ?_
    refine Json.rel_bind_same (hread (by decide) _) fun children => ?_
    refine Json.rel_bind_same (hread (by decide) _) fun podName => ?_
    refine Json.rel_bind hsteps fun steps steps' hsteps => ?_
    refine Json.rel_bind (hresults (by decide)) fun _ _ _ => ?_
    refine Json.rel_bind (hresults (by decide)) fun _ _ _ => ?_
    refine Json.rel_bind (hresults (by decide)) fun _ _ _ => ?_
    refine Json.rel_bind_same (hread (by decide) _) fun phase => ?_
    refine .some ⟨rfl, ?_⟩
    cases hsteps with
    | none => exact .nil
    | some h => exact h

theorem LikeDocument.snapshots {k : Kind} {doc doc' : Json} (h : LikeDocument doc doc') :
    Option.Rel Snapshot.Like (Snapshot.ofDocument? k doc) (Snapshot.ofDocument? k doc') := by
  cases h with
  | same => exact Json.rel_of_eq Snapshot.Like.refl rfl
  | @apart _ fields fields' left right each =>
    have hkind := (each "kind" (by decide)).resolve_right (by simp)
    have hmetadata := (each "metadata" (by decide)).resolve_right (by simp)
    have hstatus : Option.Rel (Option.Rel Document.Status.Like)
        (Json.optional? Document.status? "status" fields)
        (Json.optional? Document.status? "status" fields') := by
      rcases each "status" (by decide) with h | ⟨-, h⟩
      · exact Json.rel_of_eq (fun _ => Json.rel_of_eq Document.Status.Like.refl rfl)
          (Json.optional?_congr h)
      · exact Json.rel_optional? h (fun _ _ => LikeRecord.null_iff)
          fun _ _ => LikeStatus.statuses
    unfold Snapshot.ofDocument?
    refine Json.rel_bind_some left right ?_
    refine Json.rel_bind_same (Json.optional?_congr hkind) fun kind => ?_
    refine Json.rel_bind_same (Json.optional?_congr hmetadata) fun metadata => ?_
    refine Json.rel_bind hstatus fun status status' hstatus => .some ?_
    have hlike : (status.getD {}).Like (status'.getD {}) := by
      cases hstatus with
      | none => exact .refl _
      | some h => exact h
    obtain ⟨hrest, hsteps⟩ := hlike
    generalize status.getD {} = left at *
    rw [hrest]
    exact ⟨by cases k <;> rfl, rfl, hsteps⟩

end PipelineObserver
