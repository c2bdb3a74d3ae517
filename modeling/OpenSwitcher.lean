import OpenSwitcher.Guardian.CoverageRuns
import OpenSwitcher.SyntheticInput.Conservation
import OpenSwitcher.Writer.Protocol
import OpenSwitcher.Daemon.ChordHotkeys
import OpenSwitcher.Capture.Lease
import OpenSwitcher.Settings.Transaction
import OpenSwitcher.Guardian.Codec
import OpenSwitcher.Guardian.Coherence
import OpenSwitcher.Guardian.InPlace
import OpenSwitcher.Uinput.HeldModifiers
import OpenSwitcher.Daemon.CaseFixes
import OpenSwitcher.SessionActivity.LeaseSafety
import OpenSwitcher.Daemon.FlowInvalidation
import OpenSwitcher.Daemon.FocusRuns
import OpenSwitcher.SelectedText.Conversion
import OpenSwitcher.SyntheticInput.ModifierRuns
import OpenSwitcher.Settings.Hotkey
import OpenSwitcher.LayoutBackend.FailClosed
import OpenSwitcher.Capture.Handoff
import OpenSwitcher.Correction.Execution
import OpenSwitcher.Settings.FormRuns
import OpenSwitcher.SelectedText.Restoration
import OpenSwitcher.Daemon.WordRuns
import OpenSwitcher.Daemon.Custody
import OpenSwitcher.LayoutRefresh.Convergence
import OpenSwitcher.Guardian.KeyOrderRuns
