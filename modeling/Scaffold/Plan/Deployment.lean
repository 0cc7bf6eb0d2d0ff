import Scaffold.Generation.Generator
import Scaffold.Spec.Basic

/-!
# Files of a deployment

A service gives the description of its image, written once, and the description
of its deployment, written anew each time.
-/

namespace Scaffold

namespace ManifestSpec

def node (s : ManifestSpec) : String := "service " ++ s.name

def portValue (s : ManifestSpec) : Value := (s.port.map fun n => Value.int n).getD .null

def imageTarget (s : ManifestSpec) : Target where
  subdir := ""
  filename := "Dockerfile"
  template := ⟨.docker, "docker.tpl"⟩
  context := Context.ofList
    [("go_version", .text s.goVersion), ("exe_file", .text s.name), ("go_main", .text s.main),
      ("has_port", .bool s.port.isSome), ("port", s.portValue)]
  overwrite := .ifMissing
  node := s.node

def deploymentTarget (s : ManifestSpec) (gen : Generator) : Target where
  subdir := ""
  filename := gen.fileName s.name ".yaml"
  template := ⟨.kube, "deployment.tpl"⟩
  context := Context.ofList
    [("name", .text s.name), ("namespace", .text s.namespace_),
      ("replicas", .int s.replicas), ("image", .text s.image), ("port", s.portValue)]
  overwrite := .always
  node := s.node

def backend (s : ManifestSpec) : Backend where
  name := "manifest"
  category := .kube
  plan gen := return [s.imageTarget, s.deploymentTarget gen]

end ManifestSpec

end Scaffold
