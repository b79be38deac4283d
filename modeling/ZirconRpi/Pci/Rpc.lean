import ZirconRpi.Pci.DeviceProtocol
import Mathlib.Algebra.Group.Nat.Basic
/-! `Device::DdkRxrpc` of `pci/device_protocol.cc` and the RPCs it dispatches, over a config space
whose writes the device decides. Clients cannot write the config header, and every handle a
reply carries is a BAR that `RpcGetBar` may give out or an MSI interrupt. -/

namespace ZirconRpi.Pci.Rpc

/-- The `zx_status_t` values the RPCs return; the device's own methods' statuses pass through. -/
inductive Status where
  | ok
  | errInternal
  | errNotSupported
  | errInvalidArgs
  | errBadState
  | errOutOfRange
  | errNotFound
  | errAccessDenied
  | other (code : Int)
  deriving DecidableEq, Repr

/-- `PciRpcMsg::op`: the `PCI_OP_*` codes `DdkRxrpc` dispatches on, and any other value. -/
inductive Op where
  | configRead
  | configWrite
  | enableBusMaster
  | getAuxdata
  | getBar
  | getBti
  | getDeviceInfo
  | getNextCapability
  | mapInterrupt
  | queryIrqMode
  | resetDevice
  | setIrqMode
  | unknown (code : Nat)
  deriving DecidableEq, Repr

structure CfgMessage where
  offset : Nat
  width : Nat
  value : BitVec 32
  deriving DecidableEq, Repr

structure BarMessage where
  id : Nat
  isMmio : Bool
  ioAddr : BitVec 16
  ioSize : BitVec 16
  deriving DecidableEq, Repr

structure IrqMessage where
  mode : Nat
  requestedIrqs : Nat
  whichIrq : Nat
  maxIrqs : Nat
  deriving DecidableEq, Repr

structure DeviceInfo where
  vendorId : Nat
  deviceId : Nat
  baseClass : Nat
  subClass : Nat
  programInterface : Nat
  revisionId : Nat
  busId : Nat
  devId : Nat
  funcId : Nat
  deriving DecidableEq, Repr

/-- `PciRpcMsg`, with one field for each member of its payload union that a handler reads or
writes. A handler writes one member of the zeroed response, so the others stay zero. -/
structure PciRpcMsg where
  txid : Nat
  op : Op
  ret : Status
  enable : Bool
  cfg : CfgMessage
  bar : BarMessage
  info : DeviceInfo
  cap : DeviceProtocol.CapMessage
  irq : IrqMessage
  deriving DecidableEq, Repr

/-- A `PciRpcMsg` after `memset(..., 0, ...)`. -/
def PciRpcMsg.zero : PciRpcMsg :=
  ⟨0, .unknown 0, .ok, false, ⟨0, 0, 0⟩, ⟨0, false, 0, 0⟩, ⟨0, 0, 0, 0, 0, 0, 0, 0, 0⟩,
    ⟨0, 0, false, false⟩, ⟨0, 0, 0, 0⟩⟩

/-- The handle a reply carries: the VMO of an MMIO BAR, the resource of an IO BAR, or an MSI
interrupt. -/
inductive Handle where
  | vmo (barId : Nat)
  | resource (barId : Nat)
  | interrupt (whichIrq : Nat)
  deriving DecidableEq, Repr

structure Reply where
  msg : PciRpcMsg
  handles : List Handle
  deriving DecidableEq, Repr

/-! ## The config space -/

structure ConfigSpace where
  byte : Nat → BitVec 8

/-- `cfg_->Read` of the register of `width` bytes at `offset`, least significant byte first. -/
def ConfigSpace.read (cfg : ConfigSpace) (offset : Nat) : Nat → Nat
  | 0 => 0
  | width + 1 => (cfg.byte offset).toNat + 256 * cfg.read (offset + 1) width

/-- `cfg_->Write` of a value to the register of `width` bytes at `offset`. Which bits stick is
the device's (capability IDs and next pointers are read-only); no byte outside the register
changes. -/
structure RegisterWrite where
  write : ConfigSpace → Nat → Nat → Nat → ConfigSpace
  outside : ∀ cfg offset width value i, ¬(offset ≤ i ∧ i < offset + width) →
    (write cfg offset width value).byte i = cfg.byte i

/-! ## The device -/

/-- An entry of `bars_`, with how the calls on its allocation turn out (`CreateVmObject` for an
MMIO BAR; whether the IO BAR's resource is valid and duplicates). -/
structure Bar where
  size : Nat
  address : Nat
  isMmio : Bool
  vmoCreated : Bool
  resourceValid : Bool
  resourceDuplicated : Bool
  deriving DecidableEq, Repr

structure Msix where
  tableBar : Nat
  pbaBar : Nat
  deriving DecidableEq, Repr

/-- `irqs_.mode`. -/
inductive IrqMode where
  | disabled
  | legacy
  | msi
  | msiX
  deriving DecidableEq, Repr

/-- The state of a `pci::Device` the RPCs read; `viewStatus` is how `cfg_->get_view()` turns out. -/
structure Device where
  disabled : Bool
  cfg : ConfigSpace
  viewStatus : Status
  barCount : Nat
  bars : Nat → Bar
  msix : Option Msix
  irqMode : IrqMode
  capabilities : DeviceProtocol.Capabilities
  info : DeviceInfo

/-- `msix && (msix->table_bar() == bar_id || msix->pba_bar() == bar_id)`. -/
def Device.usedByMsix (device : Device) (barId : Nat) : Bool :=
  match device.msix with
  | some msix => msix.tableBar == barId || msix.pbaBar == barId
  | none => false

/-- The methods of `cfg_` and of `device.cc` the RPCs call, typed by what each may change. -/
structure Methods where
  cfgWrite : RegisterWrite
  enableBusMaster : Bool → ConfigSpace → Status × ConfigSpace
  queryIrqMode : Nat → IrqMode → Status × Nat
  setIrqMode : Nat → Nat → IrqMode → ConfigSpace → Status × IrqMode × ConfigSpace
  msiCreate : Nat → Status

/-! ## The RPCs -/

def pciConfigHdrSize : Nat := 64

def pciExtConfigSize : Nat := 4096

/-- The widths the `switch` of `RpcConfigRead` and `RpcConfigWrite` has a case for. -/
def isRegisterWidth (width : Nat) : Bool := width == 1 || width == 2 || width == 4

/-- `Device::RpcReply`. -/
def rpcReply (request response : PciRpcMsg) (st : Status) (handles : List Handle) : Reply :=
  ⟨{ response with op := request.op, txid := request.txid, ret := st }, handles⟩

def rpcUnimplemented (request : PciRpcMsg) : Reply := rpcReply request .zero .errNotSupported []

def rpcGetAuxdata (request : PciRpcMsg) : Reply := rpcUnimplemented request

def rpcGetBti (request : PciRpcMsg) : Reply := rpcUnimplemented request

def rpcResetDevice (request : PciRpcMsg) : Reply := rpcUnimplemented request

/-- `Device::RpcConfigRead`. -/
def rpcConfigRead (cfg : ConfigSpace) (request : PciRpcMsg) : Reply :=
  let response := { PciRpcMsg.zero with cfg := ⟨request.cfg.offset, request.cfg.width, 0⟩ }
  if request.cfg.offset ≥ pciExtConfigSize then rpcReply request response .errOutOfRange []
  else if isRegisterWidth request.cfg.width then
    rpcReply request
      { response with cfg := { response.cfg with value := BitVec.ofNat 32 (cfg.read request.cfg.offset request.cfg.width) } }
      .ok []
  else rpcReply request response .errInvalidArgs []

/-- `Device::RpcConfigWrite`: the reply and the config space after. The value is cut to the
register's width (`static_cast<uint8_t>`, `static_cast<uint16_t>`). -/
def rpcConfigWrite (cfgWrite : RegisterWrite) (cfg : ConfigSpace) (request : PciRpcMsg) : Reply × ConfigSpace :=
  let response := { PciRpcMsg.zero with cfg := request.cfg }
  if request.cfg.offset < pciConfigHdrSize then (rpcReply request response .errAccessDenied [], cfg)
  else if request.cfg.offset ≥ pciExtConfigSize then (rpcReply request response .errOutOfRange [], cfg)
  else if isRegisterWidth request.cfg.width then
    (rpcReply request response .ok [],
      cfgWrite.write cfg request.cfg.offset request.cfg.width (request.cfg.value.toNat % 256 ^ request.cfg.width))
  else (rpcReply request response .errInvalidArgs [], cfg)

def rpcEnableBusMaster (methods : Methods) (device : Device) (request : PciRpcMsg) : Reply × Device :=
  let (st, cfg) := methods.enableBusMaster request.enable device.cfg
  (rpcReply request .zero st [], { device with cfg })

def rpcGetBar (device : Device) (request : PciRpcMsg) : Reply :=
  let barId := request.bar.id
  if barId ≥ device.barCount then rpcReply request .zero .errInvalidArgs []
  else if device.usedByMsix barId then rpcReply request .zero .errAccessDenied []
  else
    let bar := device.bars barId
    if bar.size = 0 then rpcReply request .zero .errNotFound []
    else if bar.isMmio then
      let response := { PciRpcMsg.zero with bar := ⟨barId, true, 0, 0⟩ }
      if bar.vmoCreated then rpcReply request response .ok [.vmo barId]
      else rpcReply request response .errInternal []
    else
      let response := { PciRpcMsg.zero with bar := ⟨barId, false, 0, 0⟩ }
      let withRange := { response with bar := { response.bar with
        ioAddr := BitVec.ofNat 16 bar.address, ioSize := BitVec.ofNat 16 bar.size } }
      if bar.resourceValid then
        if bar.resourceDuplicated then rpcReply request withRange .ok [.resource barId]
        else rpcReply request response .errInternal []
      else rpcReply request withRange .ok []

def rpcGetDeviceInfo (device : Device) (request : PciRpcMsg) : Reply :=
  rpcReply request { PciRpcMsg.zero with info := device.info } .ok []

def Status.ofCapability : DeviceProtocol.Status → Status
  | .ok => .ok
  | .errNotFound => .errNotFound

/-- The reply `DdkRxrpc` writes from the status and `cap` of `Device::RpcGetNextCapability`. -/
def rpcGetNextCapabilityReply (device : Device) (request : PciRpcMsg) : Reply :=
  let (st, cap) := DeviceProtocol.rpcGetNextCapability device.capabilities request.cap
  rpcReply request { PciRpcMsg.zero with cap } (.ofCapability st) []

def rpcQueryIrqMode (methods : Methods) (device : Device) (request : PciRpcMsg) : Reply :=
  let (st, maxIrqs) := methods.queryIrqMode request.irq.mode device.irqMode
  rpcReply request { PciRpcMsg.zero with irq := { PciRpcMsg.zero.irq with maxIrqs } } st []

def rpcSetIrqMode (methods : Methods) (device : Device) (request : PciRpcMsg) : Reply × Device :=
  let (st, irqMode, cfg) := methods.setIrqMode request.irq.mode request.irq.requestedIrqs device.irqMode device.cfg
  (rpcReply request .zero st [], { device with irqMode, cfg })

/-- `Device::RpcMapInterrupt`: only an MSI interrupt can be mapped, and only through a view of
the config space. -/
def rpcMapInterrupt (methods : Methods) (device : Device) (request : PciRpcMsg) : Reply :=
  match device.irqMode with
  | .disabled => rpcReply request .zero .errBadState []
  | .legacy | .msiX => rpcReply request .zero .errNotSupported []
  | .msi =>
    if device.viewStatus ≠ .ok then rpcReply request .zero device.viewStatus []
    else
      let status := methods.msiCreate request.irq.whichIrq
      rpcReply request .zero status (if status = .ok then [.interrupt request.irq.whichIrq] else [])

/-- What `DdkRxrpc` is called for: a new connection (`ZX_HANDLE_INVALID`), a channel whose
read fails, or a message; `complete` is `bytes_in == sizeof(request_)`. -/
inductive Incoming where
  | connect
  | readFailed
  | message (request : PciRpcMsg) (complete : Bool)
  deriving DecidableEq, Repr

/-- The `switch (request_.op)` of `DdkRxrpc`: the reply and the device after. -/
def dispatch (methods : Methods) (device : Device) (request : PciRpcMsg) : Reply × Device :=
  match request.op with
  | .configRead => (rpcConfigRead device.cfg request, device)
  | .configWrite =>
    let (reply, cfg) := rpcConfigWrite methods.cfgWrite device.cfg request
    (reply, { device with cfg })
  | .enableBusMaster => rpcEnableBusMaster methods device request
  | .getAuxdata => (rpcGetAuxdata request, device)
  | .getBar => (rpcGetBar device request, device)
  | .getBti => (rpcGetBti request, device)
  | .getDeviceInfo => (rpcGetDeviceInfo device request, device)
  | .getNextCapability => (rpcGetNextCapabilityReply device request, device)
  | .mapInterrupt => (rpcMapInterrupt methods device request, device)
  | .queryIrqMode => (rpcQueryIrqMode methods device request, device)
  | .resetDevice => (rpcResetDevice request, device)
  | .setIrqMode => rpcSetIrqMode methods device request
  | .unknown _ => (rpcReply request .zero .errInvalidArgs [], device)

/-- `Device::DdkRxrpc`: the status it returns, the reply it writes, and the device after. The
channel write is taken to succeed. -/
def ddkRxrpc (methods : Methods) (device : Device) : Incoming → Status × Option Reply × Device
  | .connect => (.ok, none, device)
  | .readFailed => (.errInternal, none, device)
  | .message request complete =>
    if !complete then (.errInternal, none, device)
    else if device.disabled then (.ok, some (rpcReply request .zero .errBadState []), device)
    else
      let (reply, device') := dispatch methods device request
      (.ok, some reply, device')

structure Record where
  pre : Device
  incoming : Incoming
  status : Status
  reply : Option Reply
  post : Device

/-- The device host calling `DdkRxrpc` for each of `incoming` in turn ("We only servce new
requests after we've finished previous messages"). -/
def serve (methods : Methods) : Device → List Incoming → List Record × Device
  | device, [] => ([], device)
  | device, incoming :: rest =>
    let (status, reply, post) := ddkRxrpc methods device incoming
    let (records, final) := serve methods post rest
    (⟨device, incoming, status, reply, post⟩ :: records, final)

/-! ## What one request does -/

section
variable {methods : Methods} {device : Device} {request : PciRpcMsg} {cfgWrite : RegisterWrite}
  {cfg : ConfigSpace}

@[simp] theorem rpcReply_handles (response : PciRpcMsg) (st : Status) (handles : List Handle) :
    (rpcReply request response st handles).handles = handles := rfl

/-- The handles a reply may carry, for the device's BARs and the interrupt mode at the time:
the VMO of an MMIO BAR or the resource of an IO BAR that exists, has a size and is not used by
MSI-X, or an interrupt while the device is in MSI mode. -/
def Grantable (device : Device) (irqMode : IrqMode) : Handle → Prop
  | .vmo barId => barId < device.barCount ∧ device.usedByMsix barId = false ∧
      (device.bars barId).size ≠ 0 ∧ (device.bars barId).isMmio = true
  | .resource barId => barId < device.barCount ∧ device.usedByMsix barId = false ∧
      (device.bars barId).size ≠ 0 ∧ (device.bars barId).isMmio = false
  | .interrupt _ => irqMode = .msi

theorem grantable_with {cfg' : ConfigSpace} {irqMode mode : IrqMode} {handle : Handle} :
    Grantable { device with cfg := cfg', irqMode := irqMode } mode handle ↔ Grantable device mode handle := by
  cases handle <;> rfl

theorem rpcReply_nil_granted (irqMode : IrqMode) (response : PciRpcMsg) (st : Status) :
    ∃ response' st' handles, rpcReply request response st [] = rpcReply request response' st' handles ∧
      ∀ handle ∈ handles, Grantable device irqMode handle :=
  ⟨response, st, [], rfl, by simp⟩

theorem rpcConfigRead_reply : ∃ response st, rpcConfigRead cfg request = rpcReply request response st [] := by
  unfold rpcConfigRead
  split_ifs <;> exact ⟨_, _, rfl⟩

theorem rpcConfigWrite_reply :
    ∃ response st, (rpcConfigWrite cfgWrite cfg request).1 = rpcReply request response st [] := by
  unfold rpcConfigWrite
  split_ifs <;> exact ⟨_, _, rfl⟩

theorem rpcGetBar_reply (irqMode : IrqMode) :
    ∃ response st handles, rpcGetBar device request = rpcReply request response st handles ∧
      ∀ handle ∈ handles, Grantable device irqMode handle := by
  have refused := @rpcReply_nil_granted device request irqMode
  simp only [rpcGetBar]
  by_cases range : request.bar.id ≥ device.barCount
  · rw [if_pos range]
    exact refused _ _
  by_cases msix : device.usedByMsix request.bar.id
  · rw [if_neg range, if_pos msix]
    exact refused _ _
  by_cases size : (device.bars request.bar.id).size = 0
  · rw [if_neg range, if_neg msix, if_pos size]
    exact refused _ _
  rw [if_neg range, if_neg msix, if_neg size]
  have granted : ∀ isMmio, (device.bars request.bar.id).isMmio = isMmio →
      request.bar.id < device.barCount ∧ device.usedByMsix request.bar.id = false ∧
        (device.bars request.bar.id).size ≠ 0 ∧ (device.bars request.bar.id).isMmio = isMmio :=
    fun _ kind => ⟨Nat.lt_of_not_le range, by simpa using msix, size, kind⟩
  cases mmio : (device.bars request.bar.id).isMmio
  · by_cases valid : (device.bars request.bar.id).resourceValid
    · by_cases duplicated : (device.bars request.bar.id).resourceDuplicated
      · simp only [valid, duplicated, if_true, Bool.false_eq_true, if_false]
        exact ⟨_, _, _, rfl, List.forall_mem_singleton.mpr (granted false mmio)⟩
      · simp only [valid, duplicated, if_true, Bool.false_eq_true, if_false]
        exact refused _ _
    · simp only [valid, Bool.false_eq_true, if_false]
      exact refused _ _
  · by_cases created : (device.bars request.bar.id).vmoCreated
    · simp only [created, if_true]
      exact ⟨_, _, _, rfl, List.forall_mem_singleton.mpr (granted true mmio)⟩
    · simp only [created, Bool.false_eq_true, if_true, if_false]
      exact refused _ _

theorem rpcMapInterrupt_reply :
    ∃ response st handles, rpcMapInterrupt methods device request = rpcReply request response st handles ∧
      ∀ handle ∈ handles, Grantable device device.irqMode handle := by
  unfold rpcMapInterrupt
  cases mode : device.irqMode
  case msi =>
    simp only
    split_ifs <;> refine ⟨_, _, _, rfl, ?_⟩ <;> simp [Grantable, mode]
  all_goals exact rpcReply_nil_granted _ _ _

/-- What the `switch` of `DdkRxrpc` can do: reply to the request, with only handles the device
may give out, and leave the device as it was, write the register of a CONFIG_WRITE, or change
the config space and the interrupt mode through `EnableBusMaster` or `SetIrqMode`. -/
theorem dispatch_cases (methods : Methods) (device : Device) (request : PciRpcMsg) :
    (∃ response st handles, (dispatch methods device request).1 = rpcReply request response st handles ∧
      ∀ handle ∈ handles, Grantable device device.irqMode handle) ∧
    ((dispatch methods device request).2 = device ∨
      request.op = .configWrite ∧ (dispatch methods device request).2 =
        { device with cfg := (rpcConfigWrite methods.cfgWrite device.cfg request).2 } ∨
      (request.op = .enableBusMaster ∨ request.op = .setIrqMode) ∧
        ∃ cfg irqMode, (dispatch methods device request).2 = { device with cfg, irqMode }) := by
  have unchanged := @rpcReply_nil_granted device request device.irqMode
  unfold dispatch
  split
  case h_1 =>
    obtain ⟨response, st, read⟩ := @rpcConfigRead_reply request device.cfg
    exact ⟨read ▸ unchanged response st, .inl rfl⟩
  case h_2 op =>
    obtain ⟨response, st, written⟩ := @rpcConfigWrite_reply request methods.cfgWrite device.cfg
    exact ⟨written ▸ unchanged response st, .inr (.inl ⟨op, rfl⟩)⟩
  case h_3 op => exact ⟨unchanged _ _, .inr (.inr ⟨.inl op, _, device.irqMode, rfl⟩)⟩
  case h_5 => exact ⟨rpcGetBar_reply device.irqMode, .inl rfl⟩
  case h_9 => exact ⟨rpcMapInterrupt_reply, .inl rfl⟩
  case h_12 op => exact ⟨unchanged _ _, .inr (.inr ⟨.inr op, _, _, rfl⟩)⟩
  all_goals exact ⟨unchanged _ _, .inl rfl⟩

/-- What one call of `DdkRxrpc` can do: without a complete message, write nothing and leave the
device as it was; to a disabled device, reply `ZX_ERR_BAD_STATE` and leave it as it was;
otherwise do what the `switch` does. -/
theorem ddkRxrpc_cases (methods : Methods) (device : Device) (incoming : Incoming) :
    (ddkRxrpc methods device incoming).2 = (none, device) ∨
    ∃ request, incoming = .message request true ∧
      ((ddkRxrpc methods device incoming).2 = (some (rpcReply request .zero .errBadState []), device) ∨
        (ddkRxrpc methods device incoming).2 =
          (some (dispatch methods device request).1, (dispatch methods device request).2)) := by
  cases incoming with
  | connect | readFailed => exact .inl rfl
  | message request complete =>
    cases complete
    · exact .inl rfl
    · refine .inr ⟨request, rfl, ?_⟩
      cases disabled : device.disabled
      · exact .inr (by simp [ddkRxrpc, disabled])
      · exact .inl (by simp [ddkRxrpc, disabled])

end

/-! ## Runs of requests -/

/-- `other` is `device` with at most another config space and interrupt mode: the parts of a
device that no RPC changes agree. -/
def Device.Agrees (device other : Device) : Prop := ∃ cfg irqMode, other = { device with cfg, irqMode }

theorem Device.Agrees.refl (device : Device) : device.Agrees device := ⟨device.cfg, device.irqMode, rfl⟩

section
variable {methods : Methods} {device : Device} {incoming : Incoming}

theorem serve_cons (methods : Methods) (device : Device) (incoming : Incoming) (rest : List Incoming) :
    serve methods device (incoming :: rest) =
      (⟨device, incoming, (ddkRxrpc methods device incoming).1, (ddkRxrpc methods device incoming).2.1,
          (ddkRxrpc methods device incoming).2.2⟩ :: (serve methods (ddkRxrpc methods device incoming).2.2 rest).1,
        (serve methods (ddkRxrpc methods device incoming).2.2 rest).2) := rfl

theorem ddkRxrpc_agrees (methods : Methods) (device : Device) (incoming : Incoming) :
    device.Agrees (ddkRxrpc methods device incoming).2.2 := by
  rcases ddkRxrpc_cases methods device incoming with called | ⟨request, -, called | called⟩
  all_goals rw [congrArg Prod.snd called]
  · exact .refl device
  · exact .refl device
  · rcases (dispatch_cases methods device request).2 with same | ⟨-, same⟩ | ⟨-, changed⟩
    · rw [same]
      exact .refl device
    · exact ⟨_, device.irqMode, same⟩
    · exact changed

end

/-- A device for the examples: six MMIO BARs of 4 KiB, the fifth used by MSI-X, in MSI mode,
with a config space of zeros. -/
def sampleDevice : Device :=
  ⟨false, ⟨fun _ => 0⟩, .ok, 6, fun _ => ⟨0x1000, 0xfe000000, true, true, false, false⟩, some ⟨4, 4⟩, .msi,
    ⟨[], []⟩, ⟨0x8086, 0x100e, 2, 0, 0, 3, 0, 3, 0⟩⟩

def sampleMethods : Methods :=
  ⟨⟨fun cfg offset width value => ⟨fun i =>
      if offset ≤ i ∧ i < offset + width then BitVec.ofNat 8 (value / 256 ^ (i - offset)) else cfg.byte i⟩,
    fun _ _ _ _ _ outside => if_neg outside⟩,
    fun _ cfg => (.ok, cfg), fun _ _ => (.ok, 1), fun _ _ irqMode cfg => (.ok, irqMode, cfg), fun _ => .ok⟩

section
variable {methods : Methods} {device : Device} {incoming : Incoming}

theorem ddkRxrpc_handles :
    ∀ reply ∈ (ddkRxrpc methods device incoming).2.1, ∀ handle ∈ reply.handles,
      Grantable device device.irqMode handle := by
  rcases ddkRxrpc_cases methods device incoming with called | ⟨request, -, called | called⟩
  · simp [called]
  · simp [called]
  · obtain ⟨response, st, handles, replied, granted⟩ := (dispatch_cases methods device request).1
    simpa [called, replied] using granted

/-- Over any requests, every handle a reply carries is one the device may give out: the VMO
of an MMIO BAR or the resource of an IO BAR that exists, has a size and is not used by MSI-X,
or an interrupt while the device is in MSI mode. -/
theorem replies_carry_only_grantable_handles (methods : Methods) (requests : List Incoming) :
    ∀ device, ∀ record ∈ (serve methods device requests).1, ∀ reply ∈ record.reply,
      ∀ handle ∈ reply.handles, Grantable device record.pre.irqMode handle := by
  induction requests with
  | nil => simp [serve]
  | cons incoming rest ih =>
    intro device
    rw [serve_cons, List.forall_mem_cons]
    refine ⟨ddkRxrpc_handles, fun record mem reply replied handle carried => ?_⟩
    obtain ⟨cfg, irqMode, after⟩ := ddkRxrpc_agrees methods device incoming
    have granted := ih _ record mem reply replied handle carried
    rw [after] at granted
    exact grantable_with.mp granted

end

theorem sample_bar_and_interrupt_granted :
    Grantable sampleDevice .msi (.vmo 0) ∧ Grantable sampleDevice .msi (.interrupt 2) :=
  ⟨replies_carry_only_grantable_handles sampleMethods [.message { PciRpcMsg.zero with op := .getBar } true]
      sampleDevice _ (List.mem_singleton_self _) _ rfl _ (List.mem_singleton_self _),
    replies_carry_only_grantable_handles sampleMethods
      [.message { PciRpcMsg.zero with op := .mapInterrupt, irq := ⟨0, 0, 2, 0⟩ } true]
      sampleDevice _ (List.mem_singleton_self _) _ rfl _ (List.mem_singleton_self _)⟩

end ZirconRpi.Pci.Rpc
