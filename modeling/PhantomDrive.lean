import PhantomDrive.Lib.MarkerScan
import PhantomDrive.Basic
import PhantomDrive.Crypto
import PhantomDrive.Bot
import PhantomDrive.Dispatch
import PhantomDrive.SnoopScan
import PhantomDrive.UnlockFile
import PhantomDrive.SnoopMatch
import PhantomDrive.MscWrite
import PhantomDrive.WritePath
import PhantomDrive.Lib.Runs
import PhantomDrive.MscRead
import PhantomDrive.ReadRing
import PhantomDrive.Command
import PhantomDrive.Containment
import PhantomDrive.Volume
import PhantomDrive.TryUnlock
import PhantomDrive.Machine
import PhantomDrive.LockState
import PhantomDrive.ReadGuard
import PhantomDrive.Diskio
import PhantomDrive.UnlockInit
import PhantomDrive.SnoopIndex
import PhantomDrive.SnoopCapture
import PhantomDrive.ReadProgress
import PhantomDrive.HostView
import PhantomDrive.ResponseRun
import PhantomDrive.HostLength
import PhantomDrive.Target
import PhantomDrive.Blame
import PhantomDrive.Stealth
import PhantomDrive.Csd
import PhantomDrive.Lib.Dialogue
import PhantomDrive.SdInit
import PhantomDrive.SdCard
import PhantomDrive.Startup
import PhantomDrive.BlockDevice
import PhantomDrive.BlockDeviceRun
import PhantomDrive.Answers
import PhantomDrive.Capacity
import PhantomDrive.Sense
import PhantomDrive.PowerCycle
import PhantomDrive.UnlockDue
import PhantomDrive.XtsStandard
import PhantomDrive.CtrCounter
import PhantomDrive.Sha256Standard
import PhantomDrive.Pbkdf2Standard
import PhantomDrive.UnlockExits
import PhantomDrive.UnlockSearch
import PhantomDrive.WriteBuffers
import PhantomDrive.ReadErrors
import PhantomDrive.Acceptance
