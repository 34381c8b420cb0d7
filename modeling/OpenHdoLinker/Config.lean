import OpenHdoLinker.Models

/-!
# Configuration of the linker

`LinkerConfig` and `DiscoveryConfig` with what their `__post_init__` checks as
fields.  A timeout is a Python float, so the checks are Python comparisons: a NaN
passes every one of them.
-/

namespace Linker

open Py

/-! ## Semantic versions -/

def isAlnumDotDash (c : Char) : Bool :=
  isDigit c || isUpper c || isLower c || c = '.' || c = '-'

/-- `(?:[-+][0-9A-Za-z.-]+)?$` -/
def semverTail : List Char → Bool
  | [] => true
  | c :: cs => (c = '-' || c = '+') && !cs.isEmpty && cs.all isAlnumDotDash

/-- `[0-9]+` and the text after it. -/
def digitsThen (rest : List Char → Bool) (cs : List Char) : Bool :=
  !(cs.takeWhile isDigit).isEmpty && rest (cs.dropWhile isDigit)

def dotThen (rest : List Char → Bool) : List Char → Bool
  | '.' :: cs => rest cs
  | _ => false

/-- `^[0-9]+\.[0-9]+\.[0-9]+(?:[-+][0-9A-Za-z.-]+)?$`, matched in full. -/
def isSemver (s : String) : Bool :=
  digitsThen (dotThen (digitsThen (dotThen (digitsThen semverTail)))) s.toList

/-! ## Configs -/

/-- Driver-neutral discovery limits. -/
structure DiscoveryConfig where
  scope : String
  timeoutS : PyFloat
  scope_ok : scope ≠ ""
  timeout_ok : timeoutS.le (.finite 0) = false

namespace DiscoveryConfig

/-- `replace(discovery, timeout_s=timeout)`. -/
def replaceTimeout (c : DiscoveryConfig) (timeoutS : PyFloat) : Except PyErr DiscoveryConfig :=
  if h : timeoutS.le (.finite 0) = false then .ok ⟨c.scope, timeoutS, c.scope_ok, h⟩
  else .error (valueError "discovery scope and timeout must be usable")

end DiscoveryConfig

structure LinkerConfig where
  id : String
  version : String
  name : String
  transport : String
  discovery : DiscoveryConfig
  reconnectInitialS : PyFloat
  reconnectMaxS : PyFloat
  id_ok : isIdentifier id = true
  version_ok : isSemver version = true
  name_ok : name ≠ "" ∧ name.length ≤ 128
  transport_ok : isIdentifier transport = true
  reconnect_ok : reconnectInitialS.le (.finite 0) = false ∧
    reconnectMaxS.lt reconnectInitialS = false

/-- The defaults of `LinkerConfig()` pass its own checks. -/
def LinkerConfig.default : LinkerConfig where
  id := "openhdo.linker.rgb"
  version := "0.1.0"
  name := "OpenHDO RGB Linker"
  transport := "wifi"
  discovery := ⟨"local", .finite 5, by decide, by decide⟩
  reconnectInitialS := .finite 1
  reconnectMaxS := .finite 30
  id_ok := by decide
  version_ok := by decide
  name_ok := by decide
  transport_ok := by decide
  reconnect_ok := by decide

/-- A linker id is a source: not empty and at most 128 characters. -/
theorem LinkerConfig.id_length (c : LinkerConfig) : c.id ≠ "" ∧ c.id.length ≤ 128 := by
  have h := c.id_ok
  unfold isIdentifier matchesName at h
  split at h
  · cases h
  · next x cs hcs =>
    have hlen : c.id.length = cs.length + 1 := by
      rw [← String.length_toList, hcs, List.length_cons]
    simp only [Bool.and_eq_true, decide_eq_true_eq] at h
    constructor
    · intro he
      rw [he] at hcs
      simp at hcs
    · omega

end Linker
