import Mathlib.Data.List.Nodup
import Mathlib.Algebra.Group.Nat.Basic
/-! `GetNextCapability` and `Device::RpcGetNextCapability` of `pci/device_protocol.cc`. Capability
pointers may point backwards, so the handler finds the previous offset in the list and returns
the next capability with the id; a client walking from `is_first` gets each one once, in order. -/

namespace ZirconRpi.Pci.DeviceProtocol

/-- The `zx_status_t` values `GetNextCapability` returns. -/
inductive Status where
  | ok
  | errNotFound
  deriving DecidableEq, Repr

/-- The `cap` member of a `PciRpcMsg`. -/
structure CapMessage where
  id : Nat
  offset : Nat
  isExtended : Bool
  isFirst : Bool
  deriving DecidableEq, Repr

/-- An entry of a `CapabilityList` or `ExtCapabilityList`: its `id()` and `base()`. -/
structure Capability where
  id : Nat
  base : Nat
  deriving DecidableEq, Repr

/-- `capabilities()`: the standard list and the extended list. -/
structure Capabilities where
  list : List Capability
  extList : List Capability
  deriving DecidableEq, Repr

/-- The loop of `GetNextCapability` with `found_prev` as it stands: the base of the first
capability with id `id` met once `found_prev` is set, which it is at the capability whose base
is `scanOffset`. -/
def scanCapabilities (id scanOffset : Nat) : Bool → List Capability → Option Nat
  | _, [] => none
  | foundPrev, cap :: caps =>
    if foundPrev then
      if cap.id = id then some cap.base else scanCapabilities id scanOffset true caps
    else scanCapabilities id scanOffset (cap.base = scanOffset) caps

/-- `GetNextCapability<T, L>` with `T` of `width` bits: `scan_offset` is the request's offset
cut to `T`; the response gets the request's id and flags, and the offset when one is found. -/
def getNextCapability (width : Nat) (request response : CapMessage) (list : List Capability) :
    Status × CapMessage :=
  let response := { response with id := request.id, isExtended := request.isExtended, isFirst := request.isFirst }
  match scanCapabilities request.id (request.offset % 2 ^ width) request.isFirst list with
  | some base => (.ok, { response with offset := base })
  | none => (.errNotFound, response)

/-- `Device::RpcGetNextCapability` on the response `DdkRxrpc` has zeroed: the reply's status
and `cap`. -/
def rpcGetNextCapability (capabilities : Capabilities) (request : CapMessage) : Status × CapMessage :=
  let zeroed : CapMessage := ⟨0, 0, false, false⟩
  if request.isExtended then getNextCapability 16 request zeroed capabilities.extList
  else getNextCapability 8 request zeroed capabilities.list

/-- A client listing the capabilities with id `id`: it asks with `is_first` set, then from
each offset it is given, and stops at `ZX_ERR_NOT_FOUND`. The offsets it is given, or nothing
if `fuel` requests do not reach the end. -/
def walkCapabilities (capabilities : Capabilities) (isExtended : Bool) (id : Nat) :
    Nat → Bool → Nat → Option (List Nat)
  | 0, _, _ => none
  | fuel + 1, isFirst, offset =>
    match rpcGetNextCapability capabilities ⟨id, offset, isExtended, isFirst⟩ with
    | (.ok, response) =>
      (walkCapabilities capabilities isExtended id fuel false response.offset).map (response.offset :: ·)
    | (.errNotFound, _) => some []

/-- The list a request reads and the width of its offsets. -/
def Capabilities.listFor (capabilities : Capabilities) (isExtended : Bool) : List Capability :=
  if isExtended then capabilities.extList else capabilities.list

def offsetWidth (isExtended : Bool) : Nat := if isExtended then 16 else 8

theorem rpcGetNextCapability_eq (capabilities : Capabilities) (request : CapMessage) :
    rpcGetNextCapability capabilities request =
      getNextCapability (offsetWidth request.isExtended) request ⟨0, 0, false, false⟩
        (capabilities.listFor request.isExtended) := by
  unfold rpcGetNextCapability Capabilities.listFor offsetWidth
  cases request.isExtended <;> rfl

/-! ## The scan -/

section
variable {id scanOffset : Nat}

/-- Once the previous capability has been seen, the scan is `find?` on the id. -/
theorem scanCapabilities_found (caps : List Capability) :
    scanCapabilities id scanOffset true caps = (caps.find? (·.id = id)).map (·.base) := by
  induction caps with
  | nil => rfl
  | cons cap caps ih =>
    by_cases same : cap.id = id <;> simp [scanCapabilities, same, ih]

theorem scanCapabilities_skip {before : List Capability} (other : ∀ cap ∈ before, cap.base ≠ scanOffset)
    (rest : List Capability) :
    scanCapabilities id scanOffset false (before ++ rest) = scanCapabilities id scanOffset false rest := by
  induction before with
  | nil => rfl
  | cons cap before ih =>
    rw [List.forall_mem_cons] at other
    simp [scanCapabilities, other.1, ih other.2]

/-- With distinct bases, a scan from the base of a capability in the list is `find?` on what
follows that capability. -/
theorem scanCapabilities_after {before after : List Capability} {cap : Capability}
    (distinct : ((before ++ cap :: after).map (·.base)).Nodup) :
    scanCapabilities id cap.base false (before ++ cap :: after) = (after.find? (·.id = id)).map (·.base) := by
  have other : ∀ earlier ∈ before, earlier.base ≠ cap.base := by
    intro earlier listed same
    rw [List.map_append, List.nodup_append] at distinct
    exact distinct.2.2 (List.mem_map_of_mem _ listed) (by simp [same])
  rw [scanCapabilities_skip other, scanCapabilities, if_neg Bool.false_ne_true, decide_eq_true rfl,
    scanCapabilities_found]

end

/-! ## The client's walk -/

section
variable {capabilities : Capabilities} {isExtended : Bool} {id : Nat}

theorem walkCapabilities_step (fuel : Nat) (isFirst : Bool) (offset : Nat) :
    walkCapabilities capabilities isExtended id (fuel + 1) isFirst offset =
      match scanCapabilities id (offset % 2 ^ offsetWidth isExtended) isFirst (capabilities.listFor isExtended) with
      | some base => (walkCapabilities capabilities isExtended id fuel false base).map (base :: ·)
      | none => some [] := by
  rw [walkCapabilities, rpcGetNextCapability_eq]
  simp only [getNextCapability]
  cases scanCapabilities id (offset % 2 ^ offsetWidth isExtended) isFirst (capabilities.listFor isExtended) <;> rfl

/-- From the base of a capability of the list, the walk is given the capabilities with the id
that follow it, in order, and then `ZX_ERR_NOT_FOUND`. -/
theorem walkCapabilities_after (distinct : ((capabilities.listFor isExtended).map (·.base)).Nodup)
    (representable : ∀ cap ∈ capabilities.listFor isExtended, cap.base < 2 ^ offsetWidth isExtended) :
    ∀ (fuel : Nat) (before after : List Capability) (cap : Capability),
      capabilities.listFor isExtended = before ++ cap :: after → (after.filter (·.id = id)).length < fuel →
      walkCapabilities capabilities isExtended id fuel false cap.base =
        some ((after.filter (·.id = id)).map (·.base))
  | 0, _, _, _, _, enough => absurd enough (Nat.not_lt_zero _)
  | fuel + 1, before, after, cap, split, enough => by
    have fits : cap.base % 2 ^ offsetWidth isExtended = cap.base :=
      Nat.mod_eq_of_lt (representable cap (by rw [split]; simp))
    rw [walkCapabilities_step, fits, split, scanCapabilities_after (split ▸ distinct)]
    cases found : after.find? (·.id = id) with
    | none =>
      simp only [Option.map_none']
      rw [List.filter_eq_nil_iff.mpr (by simpa using List.find?_eq_none.mp found)]; rfl
    | some next =>
      obtain ⟨hit, middle, rest, rfl, skipped⟩ := List.find?_eq_some.mp found
      have filtered : (middle ++ next :: rest).filter (·.id = id) = next :: rest.filter (·.id = id) := by
        rw [List.filter_append, List.filter_eq_nil_iff.mpr (by simpa using skipped), List.nil_append]
        simp [hit]
      rw [filtered] at enough ⊢
      simp only [Option.map_some']
      rw [walkCapabilities_after distinct representable fuel (before ++ cap :: middle) rest next (by simp [split])
        (by simpa using enough)]
      rfl

/-- Capability enumeration: when the bases in the list are distinct and fit the offset type
(`uint8_t` for the standard list, `uint16_t` for the extended one), a client asking first with
`is_first` and then from each offset it is given lists exactly the capabilities with the id,
each once and in list order, and then gets `ZX_ERR_NOT_FOUND`. -/
theorem capabilities_enumerated_in_order {offset fuel : Nat}
    (distinct : ((capabilities.listFor isExtended).map (·.base)).Nodup)
    (representable : ∀ cap ∈ capabilities.listFor isExtended, cap.base < 2 ^ offsetWidth isExtended)
    (enough : ((capabilities.listFor isExtended).filter (·.id = id)).length < fuel) :
    walkCapabilities capabilities isExtended id fuel true offset =
      some (((capabilities.listFor isExtended).filter (·.id = id)).map (·.base)) := by
  obtain ⟨fuel, rfl⟩ : ∃ spare, fuel = spare + 1 := ⟨fuel - 1, by omega⟩
  rw [walkCapabilities_step, scanCapabilities_found]
  cases found : (capabilities.listFor isExtended).find? (·.id = id) with
  | none =>
    simp only [Option.map_none']
    rw [List.filter_eq_nil_iff.mpr (by simpa using List.find?_eq_none.mp found)]; rfl
  | some first =>
    obtain ⟨hit, before, after, split, skipped⟩ := List.find?_eq_some.mp found
    have filtered : (capabilities.listFor isExtended).filter (·.id = id) = first :: after.filter (·.id = id) := by
      rw [split, List.filter_append, List.filter_eq_nil_iff.mpr (by simpa using skipped), List.nil_append]
      simp [hit]
    rw [filtered] at enough ⊢
    simp only [Option.map_some']
    rw [walkCapabilities_after distinct representable fuel before after first split (by simpa using enough)]
    rfl

end

/-- Capabilities pointing backwards in config space, with the id 5 at bases 0x40 and 0x30. -/
theorem capabilities_enumerated_backwards :
    (([⟨5, 0x40⟩, ⟨9, 0x50⟩, ⟨5, 0x30⟩] : List Capability).map (·.base)).Nodup ∧
      (∀ cap ∈ ([⟨5, 0x40⟩, ⟨9, 0x50⟩, ⟨5, 0x30⟩] : List Capability), cap.base < 2 ^ offsetWidth false) ∧
      (([⟨5, 0x40⟩, ⟨9, 0x50⟩, ⟨5, 0x30⟩] : List Capability).filter (·.id = 5)).length < 3 ∧
      walkCapabilities ⟨[⟨5, 0x40⟩, ⟨9, 0x50⟩, ⟨5, 0x30⟩], []⟩ false 5 3 true 0 = some [0x40, 0x30] :=
  ⟨by decide, by decide, by decide,
    @capabilities_enumerated_in_order ⟨[⟨5, 0x40⟩, ⟨9, 0x50⟩, ⟨5, 0x30⟩], []⟩ false 5 0 3 (by decide) (by decide)
      (by decide)⟩

end ZirconRpi.Pci.DeviceProtocol
