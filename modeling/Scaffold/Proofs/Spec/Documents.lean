import Scaffold.Proofs.Json.Printing
import Scaffold.Proofs.Spec.RoundTrip
import Scaffold.Spec.Loading

/-!
# Specifications and their texts

The document of a specification can be printed, and whatever spells it, or a
loosened form of it, is loaded as that specification.
-/

namespace Scaffold

namespace Json

/-! ## Documents of specifications can be written -/

@[simp]
theorem writable_bool (b : Bool) : (Json.bool b).Writable := by
  unfold Writable
  trivial

@[simp]
theorem writable_map {α : Type} {encode : α → Json} {xs : List α} (h : ∀ x, (encode x).Writable) :
    (Json.array (xs.map encode)).Writable := by
  apply writable_array
  intro item hitem
  obtain ⟨x, -, rfl⟩ := List.mem_map.mp hitem
  exact h x

theorem writable_getD {α : Type} {encode : α → Json} (s : Option α) (h : ∀ x, (encode x).Writable) :
    ((s.map encode).getD .null).Writable := by
  cases s with
  | none =>
      change Writable .null
      unfold Writable
      trivial
  | some x => exact h x

@[simp]
theorem writable_optional (s : Option String) : (Encoding.optional s).Writable :=
  writable_getD s writable_text

@[simp]
theorem writable_annotations (a : Annotations) : (Encoding.annotations a).Writable := by
  apply writable_record
  intro f hf
  obtain ⟨entry, -, rfl⟩ := List.mem_map.mp hf
  exact writable_text entry.2

@[simp]
theorem writable_route (r : Route) : (Encoding.route r).Writable := by
  apply writable_record
  simp

@[simp]
theorem writable_group (g : Group) : (Encoding.group g).Writable := by
  apply writable_record
  simp

@[simp]
theorem writable_service (s : Service) : (Encoding.service s).Writable := by
  apply writable_record
  simp

theorem writable_apiSpec (s : ApiSpec) : (Encoding.apiSpec s).Writable := by
  apply writable_record
  simp

@[simp]
theorem writable_rpcMethod (m : RpcMethod) : (Encoding.rpcMethod m).Writable := by
  apply writable_record
  simp

@[simp]
theorem writable_rpcService (s : RpcService) : (Encoding.rpcService s).Writable := by
  apply writable_record
  simp

theorem writable_rpcSpec (s : RpcSpec) : (Encoding.rpcSpec s).Writable := by
  apply writable_record
  simp

@[simp]
theorem writable_column (c : Column) : (Encoding.column c).Writable := by
  apply writable_record
  simp

@[simp]
theorem writable_table (t : Table) : (Encoding.table t).Writable := by
  apply writable_record
  simp

theorem writable_modelSpec (s : ModelSpec) : (Encoding.modelSpec s).Writable := by
  apply writable_record
  simp

theorem writable_mongoSpec (s : MongoSpec) : (Encoding.mongoSpec s).Writable := by
  apply writable_record
  simp

theorem writable_manifestSpec (s : ManifestSpec) : (Encoding.manifestSpec s).Writable := by
  have hport := writable_getD s.port writable_natural
  apply writable_record
  simp [hport]

end Json

/-! ## Round trips -/

/-- A specification is what its document gives, and what every loosened form of
the document gives, as a document and as a text. -/
structure RoundTrips {α : Type} [Encodable α] [Decodable α] (R : Loosening) (s : α) : Prop where
  document : Decodable.decode (Encodable.encode s) = some s
  loosened : ∀ d, R (Encodable.encode s) d → Decodable.decode d = some s
  compact : Spec.ofJsonText? (Encodable.encode s).compact = some s
  pretty : Spec.ofJsonText? (Encodable.encode s).pretty = some s
  spelled : ∀ d text, R (Encodable.encode s) d → d.SpelledBy text →
    Spec.ofJsonText? text = some s

theorem ReadsAs.roundTrips {α : Type} [Encodable α] [Decodable α] {R : Loosening} {s : α}
    (h : ReadsAs Decodable.decode R (Encodable.encode s) s)
    (hwritable : (Encodable.encode s).Writable) : RoundTrips R s := by
  have hspelled : ∀ d text, R (Encodable.encode s) d → d.SpelledBy text →
      Spec.ofJsonText? text = some s := by
    intro d text hd htext
    unfold Spec.ofJsonText?
    rw [Json.parse?_of_spelledBy htext]
    exact h.read d hd
  constructor
  · exact h.read_self
  · exact h.read
  · exact hspelled _ _ h.refl (Json.spelledBy_compact hwritable)
  · exact hspelled _ _ h.refl (Json.spelledBy_pretty hwritable)
  · exact hspelled

/-- Every specification is what its document gives, whatever of its defaults is
left out of the document and whatever unknown fields are added to it. -/
theorem specifications_round_trip :
    (∀ s : ApiSpec, RoundTrips Loosening.apiSpec s) ∧
    (∀ s : RpcSpec, RoundTrips Loosening.rpcSpec s) ∧
    (∀ s : ModelSpec, RoundTrips Loosening.modelSpec s) ∧
    (∀ s : MongoSpec, RoundTrips Loosening.mongoSpec s) ∧
    ∀ s : ManifestSpec, s.Fits → RoundTrips Loosening.manifestSpec s := by
  refine ⟨?_, ?_, ?_, ?_, ?_⟩
  · intro s
    exact (readsAs_apiSpec s).roundTrips (Json.writable_apiSpec s)
  · intro s
    exact (readsAs_rpcSpec s).roundTrips (Json.writable_rpcSpec s)
  · intro s
    exact (readsAs_modelSpec s).roundTrips (Json.writable_modelSpec s)
  · intro s
    exact (readsAs_mongoSpec s).roundTrips (Json.writable_mongoSpec s)
  · intro s hfits
    exact (readsAs_manifestSpec hfits).roundTrips (Json.writable_manifestSpec s)

/-- A deployment with the default namespace, one replica and no port. -/
def ManifestSpec.worker : ManifestSpec :=
  ⟨"worker", "acme/worker", "default", none, 1, "1.21", "cmd/main.go"⟩

/-- Its document without its defaults, with a field that nobody knows. -/
def ManifestSpec.workerDocument : Json :=
  .record [("name", .text "worker"), ("image", .text "acme/worker"), ("zone", .null),
    ("go_version", .text "1.21"), ("main", .text "cmd/main.go")]

theorem specifications_round_trip_worker : ManifestSpec.worker.Fits ∧
    Loosening.manifestSpec (Encodable.encode ManifestSpec.worker) ManifestSpec.workerDocument ∧
    Decodable.decode ManifestSpec.workerDocument = some ManifestSpec.worker := by
  have hfits : ManifestSpec.worker.Fits := by
    constructor
    · exact nofun
    · decide
  have hloose : Loosening.manifestSpec (Encodable.encode ManifestSpec.worker)
      ManifestSpec.workerDocument := by
    refine ⟨_, _, rfl, rfl, ?_⟩
    refine .keep (f := .plain "name") (by simp) rfl ?_
    refine .keep (f := .plain "image") (by simp) rfl ?_
    refine .addUnknown .null (by simp [KnownField.plain, KnownField.preset, KnownField.optional]) ?_
    refine .leaveOut (f := .preset "namespace" (.text "default")) (by simp) rfl ?_
    refine .leaveOut (f := .optional "port") (by simp) rfl ?_
    refine .leaveOut (f := .preset "replicas" (.natural 1)) (by simp) rfl ?_
    refine .keep (f := .preset "go_version" (.text "1.22")) (by simp) rfl ?_
    exact .keep (f := .preset "main" (.text "main.go")) (by simp) rfl .done
  exact ⟨hfits, hloose, (specifications_round_trip.2.2.2.2 _ hfits).loosened _ hloose⟩

end Scaffold
