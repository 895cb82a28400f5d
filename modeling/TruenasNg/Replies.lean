import TruenasNg.Records
import TruenasNg.Exceptions

/-!
# Typed replies

The replies of the methods the integration polls. Reading a reply of another shape raises
a `TypeError`, as the Python code does sooner or later with a malformed reply. Only the
reply to `system.host_id` is taken as it is.
-/

namespace TruenasNg

inductive Reply where
  | info (info : Obj)
  | hostId (hostId : String)
  | pools (pools : List Pool)
  | disks (disks : List Disk)
  | temperatures (temps : Option Obj)
  | datasets (datasets : List DatasetNode)
  | alerts (alerts : List Alert)
  | services (services : List Service)
  | graphs (graphs : List Graph)
  | updateStatus (status : Obj)
  | apps (apps : List App)
  | vms (vms : List Vm)
  | other (value : Value)

def malformedReply : Exc := ⟨.typeError, "malformed reply", none⟩

namespace Reply

def asInfo : Reply → Except Exc Obj
  | .info value => .ok value
  | _ => .error malformedReply

def asPools : Reply → Except Exc (List Pool)
  | .pools value => .ok value
  | _ => .error malformedReply

def asDisks : Reply → Except Exc (List Disk)
  | .disks value => .ok value
  | _ => .error malformedReply

def asTemperatures : Reply → Except Exc (Option Obj)
  | .temperatures value => .ok value
  | _ => .error malformedReply

def asDatasets : Reply → Except Exc (List DatasetNode)
  | .datasets value => .ok value
  | _ => .error malformedReply

def asAlerts : Reply → Except Exc (List Alert)
  | .alerts value => .ok value
  | _ => .error malformedReply

def asServices : Reply → Except Exc (List Service)
  | .services value => .ok value
  | _ => .error malformedReply

def asGraphs : Reply → Except Exc (List Graph)
  | .graphs value => .ok value
  | _ => .error malformedReply

def asUpdateStatus : Reply → Except Exc Obj
  | .updateStatus value => .ok value
  | _ => .error malformedReply

def asApps : Reply → Except Exc (List App)
  | .apps value => .ok value
  | _ => .error malformedReply

def asVms : Reply → Except Exc (List Vm)
  | .vms value => .ok value
  | _ => .error malformedReply

/-- Python can hash it: neither a list nor a dictionary. -/
def hashable : Reply → Bool
  | .hostId _ => true
  | .temperatures none => true
  | .other (.list _) => false
  | .other (.dict _) => false
  | .other _ => true
  | _ => false

end Reply

/-- `str(host_id)`: a text is its own rendering, and `other` renders any other reply. -/
def strHostId (other : Reply → String) : Reply → String
  | .hostId hostId => hostId
  | reply => other reply

end TruenasNg
