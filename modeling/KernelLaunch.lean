import KernelLaunch.Adapter.Arguments
import KernelLaunch.Adapter.CommandLine
import KernelLaunch.Adapter.Resolution
import KernelLaunch.Adapter.Validation
import KernelLaunch.Kernels.Builtin
import KernelLaunch.Proofs.ArgumentSizes
import KernelLaunch.Proofs.Binding
import KernelLaunch.Proofs.BufferRuns
import KernelLaunch.Proofs.BufferTable
import KernelLaunch.Proofs.Conventions
import KernelLaunch.Proofs.DeducedLaunch
import KernelLaunch.Proofs.DefinitionRuns
import KernelLaunch.Proofs.DimensionsText
import KernelLaunch.Proofs.ElementCount
import KernelLaunch.Proofs.EnvironmentBytes
import KernelLaunch.Proofs.FirstFault
import KernelLaunch.Proofs.ForcedLaunch
import KernelLaunch.Proofs.GeneratedLength
import KernelLaunch.Proofs.MergeRuns
import KernelLaunch.Proofs.OfferedDefinitions
import KernelLaunch.Proofs.OutputSizes
import KernelLaunch.Proofs.Preparation
import KernelLaunch.Proofs.RealizedLaunch
import KernelLaunch.Proofs.Registration
import KernelLaunch.Proofs.ScalarEncodings
import KernelLaunch.Proofs.SettingFaults
import KernelLaunch.Proofs.SettingsRoundTrip
import KernelLaunch.Proofs.SharedBins
import KernelLaunch.Proofs.ThreadCount
import KernelLaunch.Proofs.WholeLiterals
import KernelLaunch.Settings.Environment
import KernelLaunch.Text.ByteOrder
