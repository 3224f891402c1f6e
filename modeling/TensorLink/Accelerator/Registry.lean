import TensorLink.Accelerator.Residency
import TensorLink.Inference.Session
import TensorLink.Model.Package

/-!
# Registered packages

Packages are decoded once and known by their identity. Running one first loads its cached
parameters, if they are not resident, and then runs its inference, both over the same data stream.

Reference: `edgetpu-driver`, `manager`; SPEC_FULL 4.6.
-/

namespace TensorLink

/-- A package with its executables ready to run. -/
structure RegisteredPackage where
  inference : Session
  /-- The executable that loads cached parameters. -/
  caching : Option Session
  deriving DecidableEq, Repr

/-- Makes the executables of a package ready (`from_package`). -/
def RegisteredPackage.ofPackage (package : Package) : Except ModelError RegisteredPackage := do
  let inference ← Session.load package.inference
  let caching ← package.caching.mapM Session.load
  return { inference, caching }

/-- The registered packages, and whose parameters are resident. -/
structure Registry where
  packages : List (PackageId × RegisteredPackage) := []
  residency : Residency := {}
  deriving DecidableEq, Repr

/-- How a run ended: its outcome, the registry, the caller's buffers and the stream. -/
structure Performed (σ : Type) where
  outcome : Except DriverError EventRecord
  registry : Registry
  outputs : List Bytes
  stream : σ

namespace Registry

variable {σ : Type}

/-- The package with a given identity. -/
def find? (registry : Registry) (id : PackageId) : Option RegisteredPackage :=
  (registry.packages.find? (·.1 = id)).map (·.2)

/-- Decodes the package in a buffer, unless it is registered already (`register_package`). -/
def register (registry : Registry) (id : PackageId) (buffer : Bytes) :
    Except DriverError Registry :=
  match registry.find? id with
  | some _ => .ok registry
  | none => do
    let package ← Session.ofModel (Package.decode buffer)
    let registered ← Session.ofModel (RegisteredPackage.ofPackage package)
    return { registry with packages := registry.packages ++ [(id, registered)] }

/-- Puts a package in the place of the one with the same identity. -/
def update (registry : Registry) (id : PackageId) (package : RegisteredPackage) : Registry :=
  { registry with
    packages := registry.packages.map fun entry =>
      if entry.1 = id then (id, package) else entry }

/-- Output buffers for the inference of a package, filled with zeros (`allocate_outputs`). -/
def allocateOutputs (registry : Registry) (id : PackageId) : Except DriverError (List Bytes) :=
  match registry.find? id with
  | none => .error (.unknownPackage id.number)
  | some package => .ok package.inference.allocateOutputs

/-- Runs the inference of a package. -/
def infer (stream : DataStream σ) (registry : Registry) (id : PackageId)
    (package : RegisteredPackage) (input : Bytes) (outputs : List Bytes) (state : σ) :
    Performed σ :=
  let invoked := package.inference.invoke stream input outputs state
  ⟨invoked.outcome, registry.update id { package with inference := invoked.session },
    invoked.outputs, invoked.stream⟩

/-- Loads the cached parameters of a package into a slot, then runs its inference. A failure to load
them leaves the token and the slots as they are after the evictions. -/
def loadAndInfer (stream : DataStream σ) (registry : Registry) (id : PackageId)
    (package : RegisteredPackage) (caching : Session) (slot : Slot) (input : Bytes)
    (outputs : List Bytes) (state : σ) : Performed σ :=
  let loaded := caching.invoke stream input [] state
  let package := { package with caching := some loaded.session }
  let registry := registry.update id package
  match loaded.outcome with
  | .error error => ⟨.error error, registry, outputs, loaded.stream⟩
  | .ok _ =>
    let residency := registry.residency.load slot id caching.executable.cachingToken
    infer stream { registry with residency } id package input outputs loaded.stream

/-- Runs a package (`invoke`). -/
def invoke (stream : DataStream σ) (registry : Registry) (id : PackageId) (input : Bytes)
    (outputs : List Bytes) (state : σ) : Performed σ :=
  match registry.find? id with
  | none => ⟨.error (.unknownPackage id.number), registry, outputs, state⟩
  | some package =>
    match package.caching with
    | none =>
      let residency := registry.residency.forgetToken
      infer stream { registry with residency } id package input outputs state
    | some caching =>
      match registry.residency.plan id caching.executable.cachingToken with
      | none => infer stream registry id package input outputs state
      | some (slot, residency) =>
        loadAndInfer stream { registry with residency } id package caching slot input outputs state

end Registry

end TensorLink
