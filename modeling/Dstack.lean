import Dstack.Tpm.Proofs.Binding
import Dstack.Kms.Proofs.SevSnp
import Dstack.Kms.Proofs.Keys
import Dstack.Verifier.Proofs.Mrtd
import Dstack.Mr.Proofs.Lite
import Dstack.Verifier.Proofs.Install
import Dstack.Contracts.Proofs.Audit
import Dstack.Util.Proofs.LuksHeader
import Dstack.GuestAgent.Proofs.Keys
import Dstack.Gateway.Proofs.Pool
import Dstack.Gateway.Proofs.PortPolicy
import Dstack.Gateway.Proofs.Recycle
import Dstack.Attest.Proofs.Displayed
import Dstack.Kms.Proofs.Onboard
import Dstack.Gateway.Proofs.Sni
import Dstack.Certbot.Proofs.Caa
import Dstack.Vmm.Proofs.Network
import Dstack.Vmm.Proofs.Admission
import Dstack.Vmm.Proofs.StartStop
import Dstack.Vmm.Proofs.Cids
import Dstack.Gateway.Proofs.Splice
import Dstack.Util.Proofs.Identity
import Dstack.Gateway.Proofs.Destination
import Dstack.Gateway.Proofs.CertLock
import Dstack.Gateway.Proofs.Health
import Dstack.Gateway.Proofs.Polling
import Dstack.Gateway.Proofs.WgApply
import Dstack.Gateway.Proofs.CertStore
import Dstack.Gateway.Proofs.Peers
import Dstack.Mr.Proofs.Authenticode
import Dstack.Mr.Proofs.SevInput
import Dstack.Mr.Proofs.RootBus
