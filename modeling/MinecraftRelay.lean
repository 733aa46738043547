import MinecraftRelay.Base64
import MinecraftRelay.Connection.SetupLong
import MinecraftRelay.Listener.Runs
import MinecraftRelay.Log
import MinecraftRelay.Metrics.Histogram
import MinecraftRelay.Protocol.LegacyRewrite
import MinecraftRelay.Resolver.Assembly.Agreement
import MinecraftRelay.Resolver.Assembly.Budget
import MinecraftRelay.Resolver.Dns.Negative
import MinecraftRelay.Resolver.Dns.Twins
import MinecraftRelay.Resolver.Supervisor.Provenance
import MinecraftRelay.Resolver.Supervisor.Timers
import MinecraftRelay.Route.Completions
import MinecraftRelay.Route.Sharing
import MinecraftRelay.Timing
