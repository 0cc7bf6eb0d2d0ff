import Scaffold.Proofs.Spec.Loosening
import Scaffold.Proofs.Text.Digits
import Scaffold.Spec.Encoding

/-!
# Specifications and their documents

The document of a specification is read back as that specification, and so is
every loosened form of it: whichever of the fields that hold their defaults are
missing, at whatever depth, and whichever unknown fields stand in its records.
-/

namespace Scaffold

open DocumentNode

/-! ## Fields of the types -/

/-- A field without a default whose document is no record and no list of them. -/
def KnownField.plain (name : String) : KnownField := ⟨name, Eq, none⟩

/-- A field with a default whose document is no record and no list of them. -/
def KnownField.preset (name : String) (default : Json) : KnownField := ⟨name, Eq, some default⟩

/-- A field of something that may be nothing. -/
def KnownField.optional (name : String) : KnownField := .preset name .null

def KnownField.annotations : KnownField := .preset "annotations" (.record [])

/-- A field of a list that is empty by default. -/
def KnownField.listed (name : String) (R : Loosening) : KnownField :=
  ⟨name, .items R, some (.array [])⟩

namespace Loosening

def route : Loosening :=
  record [.plain "method", .plain "path", .plain "handler", .optional "request_type",
    .optional "response_type", .annotations]

def group : Loosening := record [.annotations, .listed "routes" route]

def service : Loosening := record [.plain "name", .annotations, .listed "groups" group]

def apiSpec : Loosening := record [.plain "module", ⟨"service", service, none⟩]

def rpcMethod : Loosening :=
  record [.plain "name", .plain "request_type", .plain "response_type",
    .preset "streams_request" (.bool false), .preset "streams_response" (.bool false),
    .optional "doc"]

def rpcService : Loosening :=
  record [.plain "name", .plain "go_package", .listed "methods" rpcMethod]

def rpcSpec : Loosening := record [.plain "module", ⟨"service", rpcService, none⟩]

def column : Loosening := record [.plain "name", .plain "type_name", .optional "comment"]

def table : Loosening := record [.plain "name", .listed "fields" column]

def modelSpec : Loosening :=
  record [.preset "package" (.text "model"), .preset "cache" (.bool false), .listed "tables" table]

def mongoSpec : Loosening := record [.listed "types" Eq, .preset "cache" (.bool false)]

def manifestSpec : Loosening :=
  record [.plain "name", .plain "image", .preset "namespace" (.text "default"), .optional "port",
    .preset "replicas" (.natural 1), .preset "go_version" (.text "1.22"),
    .preset "main" (.text "main.go")]

end Loosening

/-! ## Annotations -/

theorem SortedMap.insertKey_of_forall_lt {α : Type} {entries : List (String × α)} {key : String}
    (value : α) (h : ∀ entry ∈ entries, entry.1 < key) :
    insertKey key value entries = entries ++ [(key, value)] := by
  induction entries with
  | nil => rfl
  | cons entry entries ih =>
      obtain ⟨hentry, hrest⟩ := List.forall_mem_cons.mp h
      have hnot : ¬ key < entry.1 := String.lt_asymm hentry
      have hne : key ≠ entry.1 := fun e => String.lt_irrefl _ (e ▸ hentry)
      rw [insertKey, if_neg hnot, if_neg hne, ih hrest, List.cons_append]

/-- The entries of a map give the map back. -/
theorem SortedMap.ofList_entries {α : Type} (m : SortedMap α) : ofList m.entries = m := by
  -- the entries come in increasing order, so each is inserted behind those before it
  have hfold : ∀ (later : List (String × α)) (before : SortedMap α),
      Increasing (before.entries ++ later) →
        (later.foldl (fun m entry => m.insert entry.1 entry.2) before).entries =
          before.entries ++ later := by
    intro later
    induction later with
    | nil =>
        intro before _
        exact (List.append_nil _).symm
    | cons entry later ih =>
        intro before hincreasing
        have hbelow : ∀ other ∈ before.entries, other.1 < entry.1 := fun other hother =>
          (List.pairwise_append.mp hincreasing).2.2 other hother entry List.mem_cons_self
        have hentries : (before.insert entry.1 entry.2).entries = before.entries ++ [entry] :=
          insertKey_of_forall_lt entry.2 hbelow
        rw [List.foldl_cons, ih _ (by simpa [hentries] using hincreasing), hentries]
        simp
  exact eq_of_entries (hfold m.entries empty m.increasing)

/-! ## Single documents -/

section

variable {name : String}

theorem readsAs_text (s : String) : ReadsAs text? Eq (.text s) s := readsAs_exact rfl

theorem readsAs_bool (b : Bool) : ReadsAs bool? Eq (.bool b) b := readsAs_exact rfl

theorem decode_annotations (a : Annotations) :
    Decoding.annotations (Encoding.annotations a) = some a := by
  unfold Decoding.annotations Encoding.annotations
  change Option.map _ ((readableEntries _).bind _) = _
  rw [readableEntries_record, Option.bind_some]
  have hentries : (a.entries.map fun entry => (entry.1, Json.text entry.2)).mapM
      (fun entry => (text? entry.2).map fun s => (entry.1, s)) = some a.entries := by
    apply mapM_map_eq_some
    intro entry
    rfl
  exact (congrArg (Option.map SortedMap.ofList) hentries).trans (congrArg some a.ofList_entries)

theorem readsAs_annotations (a : Annotations) :
    ReadsAs Decoding.annotations Eq (Encoding.annotations a) a :=
  readsAs_exact (decode_annotations a)

theorem natural?_natural (n : Nat) : natural? (Json.natural n) = some n := by
  have hdigits : (toString n).toList = Nat.toDigits 10 n := String.toList_ofList
  have hall : (toString n).toList.all Text.isAsciiDigit = true := by
    rw [hdigits, List.all_eq_true]
    exact fun c hc => Text.isAsciiDigit_of_mem_toDigits hc
  change (if (toString n).toList.all Text.isAsciiDigit then
    some (Text.digitsValue (toString n).toList) else none) = some n
  rw [if_pos hall, hdigits, Text.digitsValue_toDigits]

theorem naturalUpTo_natural {n bound : Nat} (h : n ≤ bound) :
    Decoding.naturalUpTo bound (Json.natural n) = some n := by
  unfold Decoding.naturalUpTo
  rw [natural?_natural]
  exact Option.filter_some_pos (by simpa using h)

theorem read_annotations {a : Annotations} {slot : Option Json}
    (h : Slot .annotations (Encoding.annotations a) slot) :
    Decoding.defaulted SortedMap.empty Decoding.annotations slot = some a :=
  (readsAs_annotations a).defaulted (decode_annotations SortedMap.empty) h

theorem read_optional {s : Option String} {slot : Option Json}
    (h : Slot (.optional name) (Encoding.optional s) slot) :
    Decoding.optional text? slot = some s :=
  readsAs_optional Json.text (fun _ _ => ⟨rfl, rfl⟩) h

theorem ReadsAs.listed {α : Type} {read : Json → Option α} {R : Loosening} {d : Json}
    {xs : List α} (h : ReadsAs (Decoding.list read) (Loosening.items R) d xs) {slot : Option Json}
    (hslot : Slot (.listed name R) d slot) :
    Decoding.defaulted [] (Decoding.list read) slot = some xs :=
  h.defaulted rfl hslot

end

/-! ## Specifications -/

theorem readsAs_route (r : Route) :
    ReadsAs Decoding.route Loosening.route (Encoding.route r) r := by
  apply readsAs_record
  · exact fun _ => rfl
  · decide
  · exact .cons ⟨rfl, rfl⟩ (.cons ⟨rfl, rfl⟩ (.cons ⟨rfl, rfl⟩ (.cons ⟨rfl, rfl⟩
      (.cons ⟨rfl, rfl⟩ (.cons ⟨rfl, rfl⟩ .nil)))))
  · rintro slots (_ | ⟨hmethod, _ | ⟨hpath, _ | ⟨hhandler, _ | ⟨hrequest, _ | ⟨hresponse, _ |
      ⟨hnotes, ⟨⟩⟩⟩⟩⟩⟩⟩)
    dsimp only
    rw [(readsAs_text _).needed hmethod, (readsAs_text _).needed hpath,
      (readsAs_text _).needed hhandler, read_optional hrequest, read_optional hresponse,
      read_annotations hnotes]
    rfl

theorem readsAs_group (g : Group) :
    ReadsAs Decoding.group Loosening.group (Encoding.group g) g := by
  have hroutes := ReadsAs.items fun r (_ : r ∈ g.routes) => readsAs_route r
  apply readsAs_record
  · exact fun _ => rfl
  · decide
  · exact .cons ⟨rfl, rfl⟩ (.cons ⟨rfl, hroutes.refl⟩ .nil)
  · rintro slots (_ | ⟨hnotes, _ | ⟨hslot, ⟨⟩⟩⟩)
    dsimp only
    rw [read_annotations hnotes, hroutes.listed hslot]
    rfl

theorem readsAs_service (s : Service) :
    ReadsAs Decoding.service Loosening.service (Encoding.service s) s := by
  have hgroups := ReadsAs.items fun g (_ : g ∈ s.groups) => readsAs_group g
  apply readsAs_record
  · exact fun _ => rfl
  · decide
  · exact .cons ⟨rfl, rfl⟩ (.cons ⟨rfl, rfl⟩ (.cons ⟨rfl, hgroups.refl⟩ .nil))
  · rintro slots (_ | ⟨hname, _ | ⟨hnotes, _ | ⟨hslot, ⟨⟩⟩⟩⟩)
    dsimp only
    rw [(readsAs_text _).needed hname, read_annotations hnotes, hgroups.listed hslot]
    rfl

theorem readsAs_apiSpec (s : ApiSpec) :
    ReadsAs Decoding.apiSpec Loosening.apiSpec (Encoding.apiSpec s) s := by
  have hservice := readsAs_service s.service
  apply readsAs_record
  · exact fun _ => rfl
  · decide
  · exact .cons ⟨rfl, rfl⟩ (.cons ⟨rfl, hservice.refl⟩ .nil)
  · rintro slots (_ | ⟨hmodule, _ | ⟨hslot, ⟨⟩⟩⟩)
    dsimp only
    rw [(readsAs_text _).needed hmodule, hservice.needed hslot]
    rfl

theorem readsAs_rpcMethod (m : RpcMethod) :
    ReadsAs Decoding.rpcMethod Loosening.rpcMethod (Encoding.rpcMethod m) m := by
  apply readsAs_record
  · exact fun _ => rfl
  · decide
  · exact .cons ⟨rfl, rfl⟩ (.cons ⟨rfl, rfl⟩ (.cons ⟨rfl, rfl⟩ (.cons ⟨rfl, rfl⟩
      (.cons ⟨rfl, rfl⟩ (.cons ⟨rfl, rfl⟩ .nil)))))
  · rintro slots (_ | ⟨hname, _ | ⟨hrequest, _ | ⟨hresponse, _ | ⟨hrequests, _ | ⟨hresponses, _ |
      ⟨hdoc, ⟨⟩⟩⟩⟩⟩⟩⟩)
    dsimp only
    rw [(readsAs_text _).needed hname, (readsAs_text _).needed hrequest,
      (readsAs_text _).needed hresponse, (readsAs_bool _).defaulted rfl hrequests,
      (readsAs_bool _).defaulted rfl hresponses, read_optional hdoc]
    rfl

theorem readsAs_rpcService (s : RpcService) :
    ReadsAs Decoding.rpcService Loosening.rpcService (Encoding.rpcService s) s := by
  have hmethods := ReadsAs.items fun m (_ : m ∈ s.methods) => readsAs_rpcMethod m
  apply readsAs_record
  · exact fun _ => rfl
  · decide
  · exact .cons ⟨rfl, rfl⟩ (.cons ⟨rfl, rfl⟩ (.cons ⟨rfl, hmethods.refl⟩ .nil))
  · rintro slots (_ | ⟨hname, _ | ⟨hpackage, _ | ⟨hslot, ⟨⟩⟩⟩⟩)
    dsimp only
    rw [(readsAs_text _).needed hname, (readsAs_text _).needed hpackage,
      hmethods.listed hslot]
    rfl

theorem readsAs_rpcSpec (s : RpcSpec) :
    ReadsAs Decoding.rpcSpec Loosening.rpcSpec (Encoding.rpcSpec s) s := by
  have hservice := readsAs_rpcService s.service
  apply readsAs_record
  · exact fun _ => rfl
  · decide
  · exact .cons ⟨rfl, rfl⟩ (.cons ⟨rfl, hservice.refl⟩ .nil)
  · rintro slots (_ | ⟨hmodule, _ | ⟨hslot, ⟨⟩⟩⟩)
    dsimp only
    rw [(readsAs_text _).needed hmodule, hservice.needed hslot]
    rfl

theorem readsAs_column (c : Column) :
    ReadsAs Decoding.column Loosening.column (Encoding.column c) c := by
  apply readsAs_record
  · exact fun _ => rfl
  · decide
  · exact .cons ⟨rfl, rfl⟩ (.cons ⟨rfl, rfl⟩ (.cons ⟨rfl, rfl⟩ .nil))
  · rintro slots (_ | ⟨hname, _ | ⟨htypeName, _ | ⟨hcomment, ⟨⟩⟩⟩⟩)
    dsimp only
    rw [(readsAs_text _).needed hname, (readsAs_text _).needed htypeName, read_optional hcomment]
    rfl

theorem readsAs_table (t : Table) :
    ReadsAs Decoding.table Loosening.table (Encoding.table t) t := by
  have hcolumns := ReadsAs.items fun c (_ : c ∈ t.columns) => readsAs_column c
  apply readsAs_record
  · exact fun _ => rfl
  · decide
  · exact .cons ⟨rfl, rfl⟩ (.cons ⟨rfl, hcolumns.refl⟩ .nil)
  · rintro slots (_ | ⟨hname, _ | ⟨hslot, ⟨⟩⟩⟩)
    dsimp only
    rw [(readsAs_text _).needed hname, hcolumns.listed hslot]
    rfl

theorem readsAs_modelSpec (s : ModelSpec) :
    ReadsAs Decoding.modelSpec Loosening.modelSpec (Encoding.modelSpec s) s := by
  have htables := ReadsAs.items fun t (_ : t ∈ s.tables) => readsAs_table t
  apply readsAs_record
  · exact fun _ => rfl
  · decide
  · exact .cons ⟨rfl, rfl⟩ (.cons ⟨rfl, rfl⟩ (.cons ⟨rfl, htables.refl⟩ .nil))
  · rintro slots (_ | ⟨hpackage, _ | ⟨hcache, _ | ⟨hslot, ⟨⟩⟩⟩⟩)
    dsimp only
    rw [(readsAs_text _).defaulted rfl hpackage, (readsAs_bool _).defaulted rfl hcache,
      htables.listed hslot]
    rfl

theorem readsAs_mongoSpec (s : MongoSpec) :
    ReadsAs Decoding.mongoSpec Loosening.mongoSpec (Encoding.mongoSpec s) s := by
  have htypes := ReadsAs.items fun name (_ : name ∈ s.types) => readsAs_text name
  apply readsAs_record
  · exact fun _ => rfl
  · decide
  · exact .cons ⟨rfl, htypes.refl⟩ (.cons ⟨rfl, rfl⟩ .nil)
  · rintro slots (_ | ⟨hslot, _ | ⟨hcache, ⟨⟩⟩⟩)
    dsimp only
    rw [htypes.listed hslot, (readsAs_bool _).defaulted rfl hcache]
    rfl

/-- Numbers that fit their types. -/
structure ManifestSpec.Fits (s : ManifestSpec) : Prop where
  port : ∀ n, s.port = some n → n ≤ Decoding.portLimit
  replicas : s.replicas ≤ Decoding.replicasLimit

theorem readsAs_manifestSpec {s : ManifestSpec} (h : s.Fits) :
    ReadsAs Decoding.manifestSpec Loosening.manifestSpec (Encoding.manifestSpec s) s := by
  have hreplicas := readsAs_exact (naturalUpTo_natural h.replicas)
  have hone : Decoding.naturalUpTo Decoding.replicasLimit (Json.natural 1) = some 1 :=
    naturalUpTo_natural (by decide)
  apply readsAs_record
  · exact fun _ => rfl
  · decide
  · exact .cons ⟨rfl, rfl⟩ (.cons ⟨rfl, rfl⟩ (.cons ⟨rfl, rfl⟩ (.cons ⟨rfl, rfl⟩
      (.cons ⟨rfl, rfl⟩ (.cons ⟨rfl, rfl⟩ (.cons ⟨rfl, rfl⟩ .nil))))))
  · rintro slots (_ | ⟨hname, _ | ⟨himage, _ | ⟨hnamespace, _ | ⟨hport, _ | ⟨hslot, _ |
      ⟨hgoVersion, _ | ⟨hmain, ⟨⟩⟩⟩⟩⟩⟩⟩⟩)
    have hread := readsAs_optional Json.natural
      (fun n hn => ⟨naturalUpTo_natural (h.port n hn), rfl⟩) hport
    dsimp only
    rw [(readsAs_text _).needed hname, (readsAs_text _).needed himage,
      (readsAs_text _).defaulted rfl hnamespace, hread, hreplicas.defaulted hone hslot,
      (readsAs_text _).defaulted rfl hgoVersion, (readsAs_text _).defaulted rfl hmain]
    rfl

end Scaffold
