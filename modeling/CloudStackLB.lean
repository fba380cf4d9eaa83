import CloudStackLB.Go
import CloudStackLB.Service
import CloudStackLB.Platform
import CloudStackLB.Triple
import CloudStackLB.Compare
import CloudStackLB.Firewall
import CloudStackLB.LoadBalancer
import CloudStackLB.Ensure
import CloudStackLB.Update
import CloudStackLB.Ownership
import CloudStackLB.Teardown
import CloudStackLB.Isolation
import CloudStackLB.Validation
import CloudStackLB.Hosts
import CloudStackLB.Calls
import CloudStackLB.Release
import CloudStackLB.Converge
import CloudStackLB.History
import CloudStackLB.Steady
import CloudStackLB.Footprint
import CloudStackLB.Exposure
import CloudStackLB.Sealing
import CloudStackLB.Quiet
