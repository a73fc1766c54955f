import DockerLens.Acquisition.Registry
import DockerLens.Acquisition.Response
import DockerLens.Acquisition.Paths
import DockerLens.Decoder.Order
import DockerLens.Decoder.Closure
import DockerLens.Decoder.Exchanges
import DockerLens.Decoder.Identity
import DockerLens.Decoder.Negotiated
import DockerLens.Decoder.MountGrammar
import DockerLens.Render.Prerequisite
import DockerLens.Render.Steps
import DockerLens.Render.ContainerBody
import DockerLens.Target.Reordered
import DockerLens.Target.Ipam
import DockerLens.Target.Cycle
import DockerLens.Target.Ports
import DockerLens.Target.Destinations
import DockerLens.Decoder.Sound
import DockerLens.Render.NetworkMode
import DockerLens.Acquisition.Selected
import DockerLens.Decoder.Discovered
import DockerLens.Render.Binds
import DockerLens.Render.Complete
import DockerLens.Decoder.Known
import DockerLens.Json.Literal
import DockerLens.Render.Escaped
import DockerLens.Render.LogSize
import DockerLens.Render.NetworkRead
import DockerLens.Render.ContainerRead
import DockerLens.Decoder.Daemon
import DockerLens.Decoder.Findings
import DockerLens.Decoder.Pinned
import DockerLens.Render.Renamed
import DockerLens.Render.Extended
import DockerLens.Render.Handover
import DockerLens.Render.Backed
import DockerLens.Render.Admitted
import DockerLens.Render.Resolved
import DockerLens.ReviewedCatalog.Reviewed
import DockerLens.Version.Locator
import DockerLens.Target.Principal
