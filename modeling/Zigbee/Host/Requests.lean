import Zigbee.Cluster.RawFrame
import Zigbee.Host.Program
import Zigbee.Radio.Incoming
import Zigbee.Radio.Memory
import Zigbee.Settings.Config

/-!
# Requests whose answers come later

To most requests the radio only responds that it will try; the answer is an indication
that comes later. The waiter for it is registered before the request is sent. Each attempt
has waiters of its own.
-/

namespace Zigbee.Host

open Radio Settings

/-- Make a request whose response is a status. -/
def requestChecked (kind : RequestKind) (fields : kind.layout.Carrier)
    (status : kind.answer.Carrier → Status) : Call Unit := do
  let response ← Call.request kind fields
  Call.check (Failure.checkStatus (status response))

/-- Send something and wait for the indication that answers it. -/
def sendAndWait (policy : RetryPolicy) (pattern : Pattern) (send : Call Unit) :
    Call pattern.kind.layout.Carrier :=
  retry (Call.withWaiter pattern fun waiter => do
    send
    Call.await waiter pattern.kind policy.milliseconds) policy.retries

/-! ### The radio's memory -/

/-- Read a parameter from the radio's memory. -/
def readMemory (item : MemoryItem) : Call item.layout.Carrier := do
  let (status, value, ()) ← Call.request .sysOsalNvRead (item.id, 0, ())
  Call.check (Failure.checkStatus status)
  Call.check ((item.layout.read value).mapError .codec)

/-- Write a parameter to the radio's memory. -/
def writeMemory (item : MemoryItem) (fields : item.layout.Carrier) : Call Unit := do
  let value ← Call.check ((item.layout.write fields).mapError .codec)
  requestChecked .sysOsalNvWrite (item.id, 0, value, ()) (·.1)

/-! ### Reset -/

/-- The order to reset softly. -/
def softReset : resetTypes.Member := ⟨1, by decide⟩

/-- Reset the radio and wait until it is back. -/
def reset (timeouts : Timeouts) : Call IndicationKind.sysResetInd.layout.Carrier :=
  sendAndWait timeouts.reset (.any .sysResetInd) (Call.order .sysResetReq (softReset, ()))

/-! ### Questions about devices -/

/-- The endpoints of a device. -/
def activeEndpoints (timeouts : Timeouts) (address : String) :
    Call IndicationKind.zdoActiveEpRsp.layout.Carrier := do
  let answer ← sendAndWait timeouts.zdo
    ⟨.zdoActiveEpRsp, fun (_, _, subject, _) => subject == address⟩
    (requestChecked .zdoActiveEpReq (address, address, ()) (·.1))
  let (_, status, _) := answer
  Call.check (Failure.checkStatus status)
  return answer

/-- What a device is. -/
def nodeDescription (timeouts : Timeouts) (address : String) :
    Call IndicationKind.zdoNodeDescRsp.layout.Carrier := do
  let answer ← sendAndWait timeouts.zdo
    ⟨.zdoNodeDescRsp, fun (_, _, subject, _) => subject == address⟩
    (requestChecked .zdoNodeDescReq (address, address, ()) (·.1))
  let (_, status, _) := answer
  Call.check (Failure.checkStatus status)
  return answer

/-- What an endpoint of a device offers. -/
def simpleDescription (timeouts : Timeouts) (address : String) (endpoint : BitVec 8) :
    Call IndicationKind.zdoSimpleDescRsp.layout.Carrier := do
  let answer ← sendAndWait timeouts.zdo
    ⟨.zdoSimpleDescRsp, fun (_, _, subject, _, number, _) =>
      subject == address && number == endpoint⟩
    (requestChecked .zdoSimpleDescReq (address, address, endpoint, ()) (·.1))
  let (_, status, _) := answer
  Call.check (Failure.checkStatus status)
  return answer

/-! ### Bindings -/

/-- Create a binding on a device. -/
def bind (timeouts : Timeouts) (fields : RequestKind.zdoBindReq.layout.Carrier) : Call Unit := do
  let (destination, _) := fields
  let (_, status, ()) ← sendAndWait timeouts.zdo
    ⟨.zdoBindRsp, fun (source, _) => source == destination⟩
    (requestChecked .zdoBindReq fields (·.1))
  Call.check (Failure.checkStatus status)

/-- Remove a binding from a device. -/
def unbind (timeouts : Timeouts) (fields : RequestKind.zdoUnbindReq.layout.Carrier) :
    Call Unit := do
  let (destination, _) := fields
  let (_, status, ()) ← sendAndWait timeouts.zdo
    ⟨.zdoUnbindRsp, fun (source, _) => source == destination⟩
    (requestChecked .zdoUnbindReq fields (·.1))
  Call.check (Failure.checkStatus status)

/-! ### Messages to devices -/

/-- Whether a message comes from the device and its frame has the number. -/
def isReply (source : String) (number : BitVec 8)
    (fields : IndicationKind.afIncomingMessage.layout.Carrier) : Bool :=
  let m := IncomingMessage.ofFields fields
  m.source == source && Cluster.sequenceNumber? m.data == some ⟨number⟩

/-- Send a frame to a device and wait for the confirmation and the reply. Both are found by
the number of the transaction, which every attempt uses again. -/
def dataRequest (timeouts : Timeouts) (fields : RequestKind.afDataRequest.layout.Carrier) :
    Call IncomingMessage := do
  let (destination, _, _, _, transaction, _) := fields
  let limit := timeouts.data.milliseconds
  let attempt : Call IncomingMessage :=
    Call.withWaiter ⟨.afDataConfirm, fun (_, _, number, ()) => number == transaction⟩
      fun confirmation =>
    Call.withWaiter ⟨.afIncomingMessage, isReply destination transaction⟩ fun reply => do
      requestChecked .afDataRequest fields (·.1)
      let (status, _) ← Call.await confirmation .afDataConfirm limit
      if Status.isSuccess status then
        return .ofFields (← Call.await reply .afIncomingMessage limit)
      else throw (Failure.dataConfirm status)
  retry attempt timeouts.data.retries

end Zigbee.Host
