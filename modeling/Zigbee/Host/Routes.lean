import Zigbee.Host.Channel
import Zigbee.Radio.Incoming

/-!
# Routes of indications

After the waiters have seen an indication it is routed by its kind. Announcements,
departures, news of the trust center and messages have queues; of the other kinds nothing
is left to do. An item that does not fit into its queue is dropped and reported.
-/

namespace Zigbee.Host

open Radio

/-- The queues behind the coordinator. -/
structure Routes where
  announce : Channel IndicationKind.zdoEndDeviceAnnceInd.layout.Carrier := { capacity := 100 }
  leave : Channel IndicationKind.zdoLeaveInd.layout.Carrier := { capacity := 100 }
  trustCenter : Channel IndicationKind.zdoTcDevInd.layout.Carrier := { capacity := 100 }
  incoming : Channel IncomingMessage := { capacity := 100 }
  errors : Channel Failure := { capacity := 100 }

namespace Routes

/-- Report a failure; one that does not fit is lost. -/
def report (r : Routes) (e : Failure) : Routes := { r with errors := r.errors.push e }

/-- Report that a queue is full, if it is. -/
def reportOffer (r : Routes) (name : String) : Offer → Routes
  | .full => r.report (.channelFull name)
  | _ => r

/-- Route an indication. -/
def route (r : Routes) : Indication → Routes
  | ⟨.zdoEndDeviceAnnceInd, fields⟩ =>
    let (offer, queue) := r.announce.offer fields
    { r with announce := queue }.reportOffer "device announce" offer
  | ⟨.zdoLeaveInd, fields⟩ =>
    let (offer, queue) := r.leave.offer fields
    { r with leave := queue }.reportOffer "device leave" offer
  | ⟨.zdoTcDevInd, fields⟩ =>
    let (offer, queue) := r.trustCenter.offer fields
    { r with trustCenter := queue }.reportOffer "trust center" offer
  | ⟨.afIncomingMessage, fields⟩ =>
    let (offer, queue) := r.incoming.offer (.ofFields fields)
    { r with incoming := queue }.reportOffer "incoming message" offer
  | _ => r

/-- The queues without their items. -/
def clear (r : Routes) : Routes where
  announce := r.announce.clear
  leave := r.leave.clear
  trustCenter := r.trustCenter.clear
  incoming := r.incoming.clear
  errors := r.errors.clear

/-- The queues to which nobody attends. -/
def abandon (r : Routes) : Routes where
  announce := r.announce.abandon
  leave := r.leave.abandon
  trustCenter := r.trustCenter.abandon
  incoming := r.incoming.abandon
  errors := r.errors.abandon

end Routes

end Zigbee.Host
