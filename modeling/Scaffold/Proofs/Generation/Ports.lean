import Scaffold.Proofs.Catalog.Initialization
import Scaffold.Proofs.Generation.Supplies
import Scaffold.Proofs.Template.Labels
import Scaffold.Proofs.Text.Digits

/-!
# The port of a deployment

The description of an image exposes the port of the service, and the manifest of
its deployment names it for the container and for a service in front of it. One
template asks whether there is a port and the other one for the port itself,
which counts as false when it is zero: that port is exposed, and the manifest is
silent about it. On every other port the two agree, and without one both are
silent.
-/

namespace Scaffold

open Text Template

/-! ## What files say of ports -/

/-- The ports that the description of an image exposes. -/
def exposedPorts (dockerfile : String) : List String :=
  entries "EXPOSE " (splitOn '\n' dockerfile)

/-- The kind of a document and the ports that it names. -/
structure PortReading where
  kinds : List String
  containerPorts : List String
  servicePorts : List String
  targetPorts : List String
  deriving DecidableEq

namespace PortReading

def ofLines (lines : List String) : PortReading where
  kinds := entries "kind: " lines
  containerPorts := entries "- containerPort: " lines
  servicePorts := entries "- port: " lines
  targetPorts := entries "targetPort: " lines

/-- A reading of the entries for the kind and the three places of ports. -/
def ofEntries : List (List String) → PortReading
  | [kinds, containerPorts, servicePorts, targetPorts] =>
    ⟨kinds, containerPorts, servicePorts, targetPorts⟩
  | _ => ⟨[], [], [], []⟩

/-- A deployment whose container listens on some ports. -/
def deployment (ports : List String) : PortReading := ⟨["Deployment"], ports, [], []⟩

/-- A service that passes a port on. -/
def service (port : String) : PortReading := ⟨["Service"], [], [port], [port]⟩

end PortReading

/-- The documents of a manifest. -/
def portReadings (manifest : String) : List PortReading :=
  (documents manifest).map PortReading.ofLines

/-- Two files that name a port and no other one, or none at all if there is none. -/
structure PortsAgree (port : Option Nat) (dockerfile manifest : String) : Prop where
  exposed : exposedPorts dockerfile = port.toList.map toString
  containers : (portReadings manifest).flatMap (·.containerPorts) = port.toList.map toString
  services : (portReadings manifest).filter (·.kinds.contains "Service") =
    port.toList.map fun n => PortReading.service (toString n)

/-! ## Values without line breaks -/

theorem unbroken_ofList {entries : List (String × Value)} (hnames : (entries.map (·.1)).Nodup)
    (h : ∀ entry ∈ entries, '\n' ∉ entry.2.print.toList) :
    Unbroken (Context.ofList entries).values := by
  intro name
  rw [Context.get?_values, Context.get?_ofList hnames]
  cases hlookup : entries.lookup name with
  | none => exact List.not_mem_nil
  | some v => exact h _ (mem_of_lookup hlookup)

theorem newline_not_mem_toString (n : Nat) : '\n' ∉ (toString n).toList := by
  intro hmem
  have hdigits : (toString n).toList = Nat.toDigits 10 n := String.toList_ofList
  rw [hdigits] at hmem
  exact absurd (isAsciiDigit_of_mem_toDigits hmem) (by decide)

namespace ManifestSpec

def texts (s : ManifestSpec) : List String := [s.name, s.image, s.namespace_, s.goVersion, s.main]

variable {s : ManifestSpec} {g : Generator} {d : Disk}

theorem forall_mem_texts_iff {p : String → Prop} : (∀ text ∈ s.texts, p text) ↔
    p s.name ∧ p s.image ∧ p s.namespace_ ∧ p s.goVersion ∧ p s.main := by
  simp [texts]

theorem newline_not_mem_portValue (s : ManifestSpec) : '\n' ∉ s.portValue.print.toList := by
  unfold portValue
  cases s.port with
  | none => exact List.not_mem_nil
  | some n => exact newline_not_mem_toString n

theorem unbroken_imageTarget (h : ∀ text ∈ s.texts, '\n' ∉ text.toList) :
    Unbroken s.imageTarget.context.values := by
  obtain ⟨hname, himage, hnamespace, hgoVersion, hmain⟩ := forall_mem_texts_iff.mp h
  refine unbroken_ofList (by simp) ?_
  simp only [List.forall_mem_cons]
  refine ⟨hgoVersion, hname, hmain, ?_, s.newline_not_mem_portValue, List.forall_mem_nil _⟩
  cases s.port.isSome <;> decide

theorem unbroken_deploymentTarget (g : Generator) (h : ∀ text ∈ s.texts, '\n' ∉ text.toList) :
    Unbroken (s.deploymentTarget g).context.values := by
  obtain ⟨hname, himage, hnamespace, hgoVersion, hmain⟩ := forall_mem_texts_iff.mp h
  refine unbroken_ofList (by simp) ?_
  simp only [List.forall_mem_cons]
  exact ⟨hname, hnamespace, newline_not_mem_toString s.replicas, himage,
    s.newline_not_mem_portValue, List.forall_mem_nil _⟩

/-! ## What the outlines say of ports -/

open BuiltinText

/-- Where the description of an image exposes a port. -/
def exposedOutline? (hasPort : Bool) (cs : List Char) : Option (List Outline) :=
  (outlineOfChars? (TemplateKey.required ⟨.docker, "docker.tpl"⟩) [("has_port", hasPort)] cs).bind
    fun o => Outline.entries? "EXPOSE " o.lines

/-- The labels of what a document says of its kind and of ports. -/
def portLabels : List String := ["kind: ", "- containerPort: ", "- port: ", "targetPort: "]

def manifestOutline? (hasPort : Bool) (cs : List Char) :
    Option (List (List (List Outline))) :=
  (outlineOfChars? (TemplateKey.required ⟨.kube, "deployment.tpl"⟩) [("port", hasPort)] cs).bind
    fun o => o.readings? portLabels

/-- The port where there is one. -/
def portOutline (hasPort : Bool) : List Outline := if hasPort then [[.value "port"]] else []

set_option maxRecDepth 4000 in
theorem exposedOutline?_dockerDocker (hasPort : Bool) :
    exposedOutline? hasPort dockerDocker.toList = some (portOutline hasPort) := by
  apply Spelled.read (exposedOutline? hasPort)
  · repeat
      apply Spelled.cons
      · exact rfl
    exact Spelled.nil
  · cases hasPort <;> decide

set_option maxRecDepth 4000 in
theorem manifestOutline?_kubeDeployment (hasPort : Bool) :
    manifestOutline? hasPort kubeDeployment.toList =
      some ([[literalOutline "Deployment"], portOutline hasPort, [], []] ::
        (portOutline hasPort).map fun port =>
          [[literalOutline "Service"], [], [port], [port]]) := by
  apply Spelled.read (manifestOutline? hasPort)
  · repeat
      apply Spelled.cons
      · exact rfl
    exact Spelled.nil
  · cases hasPort <;> decide

/-! ## Ports of the rendered files -/

theorem text_value {context : SortedMap Value} {name : String} {v : Value}
    (h : context.get? name = some v) : Outline.text context [.value name] = v.print := by
  simp [Outline.text, Outline.chars, Item.chars, h]

theorem print_portValue {n : Nat} (h : s.port = some n) : s.portValue.print = toString n := by
  unfold portValue
  rw [h]
  rfl

/-- A port counts as false when there is none and when it is zero. -/
theorem isTruthy_portValue (s : ManifestSpec) :
    s.portValue.isTruthy = (s.port.filter (· ≠ 0)).isSome := by
  unfold portValue
  rcases s.port with _ | _ | n
  · rfl
  · rfl
  · rfl

theorem text_portOutline {context : SortedMap Value} {port : Option Nat}
    (hvalue : context.get? "port" = some s.portValue)
    (hport : ∀ n, port = some n → s.port = some n) :
    (portOutline port.isSome).map (Outline.text context) = port.toList.map toString := by
  unfold portOutline
  cases port with
  | none => rfl
  | some n =>
      rw [Option.isSome_some, if_pos rfl, List.map_singleton, text_value hvalue,
        print_portValue (hport n rfl)]
      rfl

/-- The port is exposed whatever number it is. -/
theorem exists_dockerfile
    (htext : g.repository.textOf d ⟨.docker, "docker.tpl"⟩ = .ok dockerDocker)
    (hbreaks : ∀ text ∈ s.texts, '\n' ∉ text.toList) :
    ∃ dockerfile, g.content s.imageTarget d = .ok dockerfile ∧
      exposedPorts dockerfile = s.port.toList.map toString := by
  obtain ⟨o, ho, hexposed⟩ := Option.bind_eq_some_iff.mp (exposedOutline?_dockerDocker s.port.isSome)
  have hmet := (Specification.Offers.image s : Specification.Offers g _ _).met
  have htruth : ((s.imageTarget.context.values.get? "has_port").getD .null).isTruthy =
      s.port.isSome := by
    rw [Context.get?_values, imageTarget, Context.get?_ofList (by simp)]
    rfl
  refine ⟨_, Generator.content_of_outline htext rfl ho hmet
    (List.forall_mem_singleton.mpr htruth), ?_⟩
  unfold exposedPorts
  have hvalue : s.imageTarget.context.values.get? "port" = some s.portValue := by
    rw [Context.get?_values, imageTarget, Context.get?_ofList (by simp)]
    rfl
  rw [o.splitOn_text (unbroken_imageTarget hbreaks), Outline.entries_of_entries? hexposed,
    text_portOutline hvalue fun _ => id]

/-- The manifest names the port for the container and for a service, unless it is zero. -/
theorem exists_manifest
    (htext : g.repository.textOf d ⟨.kube, "deployment.tpl"⟩ = .ok kubeDeployment)
    (hbreaks : ∀ text ∈ s.texts, '\n' ∉ text.toList) :
    ∃ manifest, g.content (s.deploymentTarget g) d = .ok manifest ∧
      portReadings manifest =
        PortReading.deployment ((s.port.filter (· ≠ 0)).toList.map toString) ::
          ((s.port.filter (· ≠ 0)).toList.map toString).map PortReading.service := by
  obtain ⟨o, ho, hreadings⟩ :=
    Option.bind_eq_some_iff.mp (manifestOutline?_kubeDeployment s.portValue.isTruthy)
  have hmet := (Specification.Offers.deployment s : Specification.Offers g _ _).met
  have hvalue : (s.deploymentTarget g).context.values.get? "port" = some s.portValue := by
    rw [Context.get?_values, deploymentTarget, Context.get?_ofList (by simp)]
    rfl
  have htruth : (((s.deploymentTarget g).context.values.get? "port").getD .null).isTruthy =
      s.portValue.isTruthy := by
    rw [hvalue]
    rfl
  refine ⟨_, Generator.content_of_outline htext rfl ho hmet
    (List.forall_mem_singleton.mpr htruth), ?_⟩
  have hgiven : ∀ n, s.port.filter (· ≠ 0) = some n → s.port = some n := by
    intro n hn
    exact (Option.filter_eq_some_iff.mp hn).1
  -- the template asks for the port itself, so zero is as good as none
  have hports := text_portOutline hvalue hgiven
  rw [← isTruthy_portValue] at hports
  have hread := Outline.readings_of_readings? (unbroken_deploymentTarget g hbreaks) hreadings
  have hofLines : ∀ text, portReadings text = ((documents text).map fun lines =>
      portLabels.map fun label => entries label lines).map PortReading.ofEntries := by
    intro text
    rw [List.map_map]
    rfl
  rw [hofLines, hread, ← hports]
  simp only [List.map_cons, List.map_map, List.map_nil, text_literalOutline]
  rfl

/-! ## Agreement -/

/-- The two files of a service agree on its port, unless that is zero. -/
theorem portsAgree_iff
    (hdocker : g.repository.textOf d ⟨.docker, "docker.tpl"⟩ = .ok dockerDocker)
    (hkube : g.repository.textOf d ⟨.kube, "deployment.tpl"⟩ = .ok kubeDeployment)
    (hbreaks : ∀ text ∈ s.texts, '\n' ∉ text.toList) :
    (s.backend.plan g).runOn d = (.ok [s.imageTarget, s.deploymentTarget g], d) ∧
      ∃ dockerfile manifest, g.content s.imageTarget d = .ok dockerfile ∧
        g.content (s.deploymentTarget g) d = .ok manifest ∧
          (PortsAgree s.port dockerfile manifest ↔ s.port ≠ some 0) := by
  obtain ⟨dockerfile, hdockerfile, hexposed⟩ := exists_dockerfile hdocker hbreaks
  obtain ⟨manifest, hmanifest, hreadings⟩ := exists_manifest hkube hbreaks
  refine ⟨rfl, dockerfile, manifest, hdockerfile, hmanifest, ?_, fun hport => ?_⟩
  · intro hagree hport
    have hcontainers := hagree.containers
    rw [hreadings, hport] at hcontainers
    exact absurd hcontainers (by decide)
  · have hfilter : s.port.filter (· ≠ 0) = s.port := by
      cases hs : s.port with
      | none => rfl
      | some n => simpa [hs] using hport
    rw [hfilter] at hreadings
    constructor
    · exact hexposed
    · rw [hreadings]
      cases s.port <;> rfl
    · rw [hreadings]
      cases s.port <;> rfl

/-- A service on a port. -/
def greeter (port : Nat) : ManifestSpec :=
  ⟨"greet", "acme/greet", "default", some port, 1, "1.22", "main.go"⟩

theorem textOf_plain {key : TemplateKey} {text : String} (h : key.builtinText? = some text)
    (hfile : Disk.isFile {} (Generator.plain.repository.pathOf key) = false) :
    Generator.plain.repository.textOf {} key = .ok text :=
  Repository.textOf_of_builtin hfile h

theorem newline_not_mem_greeter (port : Nat) :
    ∀ text ∈ (greeter port).texts, '\n' ∉ text.toList := by
  change ∀ text ∈ ["greet", "acme/greet", "default", "1.22", "main.go"], '\n' ∉ text.toList
  decide

theorem portsAgree_greeter : ∃ dockerfile manifest,
    Generator.plain.content (greeter 8080).imageTarget {} = .ok dockerfile ∧
      Generator.plain.content ((greeter 8080).deploymentTarget .plain) {} = .ok manifest ∧
        PortsAgree (some 8080) dockerfile manifest := by
  obtain ⟨-, dockerfile, manifest, hdockerfile, hmanifest, hagree⟩ :=
    portsAgree_iff (s := greeter 8080) (textOf_plain rfl (by decide))
      (textOf_plain rfl (by decide)) (newline_not_mem_greeter 8080)
  exact ⟨dockerfile, manifest, hdockerfile, hmanifest, hagree.mpr (by decide)⟩

/-- Port zero is exposed by the image and missing from the manifest. -/
theorem portsAgree_fails_zero : ∃ dockerfile manifest,
    Generator.plain.content (greeter 0).imageTarget {} = .ok dockerfile ∧
      Generator.plain.content ((greeter 0).deploymentTarget .plain) {} = .ok manifest ∧
        exposedPorts dockerfile = ["0"] ∧ portReadings manifest = [PortReading.deployment []] ∧
          ¬ PortsAgree (some 0) dockerfile manifest := by
  have hbreaks := newline_not_mem_greeter 0
  obtain ⟨dockerfile, hdockerfile, hexposed⟩ :=
    exists_dockerfile (textOf_plain rfl (by decide)) hbreaks
  obtain ⟨manifest, hmanifest, hreadings⟩ :=
    exists_manifest (textOf_plain rfl (by decide)) hbreaks
  refine ⟨dockerfile, manifest, hdockerfile, hmanifest, hexposed, hreadings, fun hagree => ?_⟩
  have hcontainers := hagree.containers
  rw [hreadings] at hcontainers
  exact absurd hcontainers (by decide)

end ManifestSpec

end Scaffold
