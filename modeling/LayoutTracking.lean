import LayoutTracking.Data.Forms
import LayoutTracking.Logging.Setup
import LayoutTracking.Proofs.BackendEquivalence
import LayoutTracking.Session.Run
import LayoutTracking.SpanMap.Bench
import LayoutTracking.Subresource.AspectText
import LayoutTracking.Proofs.ApplyOrder
import LayoutTracking.Proofs.Pointwise
import LayoutTracking.Proofs.Filling
import LayoutTracking.Proofs.Importing
import LayoutTracking.Proofs.Registries
import LayoutTracking.Proofs.SweepLengths
import LayoutTracking.Proofs.SetLayout
import LayoutTracking.Proofs.ImportUnion
import LayoutTracking.Proofs.Addresses
import LayoutTracking.Proofs.Handles
import LayoutTracking.Proofs.StaleCursor
import LayoutTracking.Proofs.NestedExecution
import LayoutTracking.Proofs.Moves
import LayoutTracking.Proofs.Devices
import LayoutTracking.Proofs.ExactFlags
import LayoutTracking.Proofs.StoreNames
import LayoutTracking.Proofs.ExecutionMerge
import LayoutTracking.Proofs.WriteOnce
import LayoutTracking.Proofs.Twins
import LayoutTracking.Proofs.Thresholds
import LayoutTracking.Proofs.Acceptance
import LayoutTracking.Proofs.DeviceLayouts
import LayoutTracking.Proofs.AnyCursor
import LayoutTracking.Proofs.IndependentWrites
import LayoutTracking.Proofs.TotalLayouts
import LayoutTracking.Proofs.SharedLayouts
import LayoutTracking.Proofs.ReadPaths
import LayoutTracking.Proofs.Overwriting
import LayoutTracking.Proofs.Searches
import LayoutTracking.Proofs.IssuedHandles
import LayoutTracking.Proofs.MergingOnce
import LayoutTracking.Proofs.NeededSnapshots
import LayoutTracking.Proofs.DeepCopy
import LayoutTracking.Proofs.ViewRequests
import LayoutTracking.Proofs.TableOrder
import LayoutTracking.Proofs.ResolvedSelectors
import LayoutTracking.Proofs.SettingsRoundTrip
