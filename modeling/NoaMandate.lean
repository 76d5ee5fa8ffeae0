import NoaMandate.Adapter.PolicyChange
import NoaMandate.Evidence.Coverage
import NoaMandate.Evidence.Tampering
import NoaMandate.Federation.Presentation
import NoaMandate.Gate.Projections
import NoaMandate.Kernel.Documents
import NoaMandate.Kernel.Reordering
import NoaMandate.Ledger.Conservation
import NoaMandate.Ledger.Exact
import NoaMandate.Policy.Eval
import NoaMandate.Proxy.Rotation
import NoaMandate.Proxy.SingleUse
import NoaMandate.Relay.Binding
import NoaMandate.Relay.DeviceKeys
import NoaMandate.Relay.FileStore
import NoaMandate.Relay.Manifests
import NoaMandate.Relay.Tenants
import NoaMandate.Signer.SingleUse
