import PacketTracer.Application.CompletedRun
import PacketTracer.Application.DeltaReplay
import PacketTracer.Application.DeploymentOutcome
import PacketTracer.Domain.EndpointSlices
import PacketTracer.Application.FoundationalEvidence
import PacketTracer.Application.MutationReplay
import PacketTracer.Application.PreflightRefusal
import PacketTracer.Application.ControlPlaneProvenance
import PacketTracer.Application.SecurityRecovery
import PacketTracer.Application.ServiceAcceptance
import PacketTracer.Application.VerifiedStatus
import PacketTracer.Application.VoiceCompleteness
import PacketTracer.Application.VoiceStaging
import PacketTracer.Domain.AccessListCompilation
import PacketTracer.Domain.AddressStability
import PacketTracer.Domain.AutoFixer
import PacketTracer.Domain.FailureDomainAnalyzer
import PacketTracer.Domain.IpamDisjointness
import PacketTracer.Domain.RouteLookup
import PacketTracer.Domain.StaticRouting
import PacketTracer.Domain.TrafficAttribution
import PacketTracer.Infrastructure.CapabilitySnapshotStore
import PacketTracer.Infrastructure.DhcpPoolPrinting
import PacketTracer.Infrastructure.GuardAgreement
import PacketTracer.Infrastructure.InterfaceNames
import PacketTracer.Infrastructure.ManifestLookups
import PacketTracer.Infrastructure.JsEscape
import PacketTracer.Infrastructure.PoolNames
import PacketTracer.Infrastructure.RequestFate
import PacketTracer.Infrastructure.LiveBridge
import PacketTracer.Infrastructure.SimulationTimeConvergence
import PacketTracer.Infrastructure.StableConvergence
