import A500cg.Lib.Bytes
import A500cg.Lib.WriteLog
import A500cg.Lib.Words
import A500cg.Lib.Flash
import A500cg.Osip.Header
import A500cg.Osip.Slots
import A500cg.Osip.Update
import A500cg.Osip.UpdateSpec
import A500cg.Osip.Stitch
import A500cg.Osip.Plan
import A500cg.Osip.PowerCut
import A500cg.Osip.SpareSlot
import A500cg.Osip.Named
import A500cg.Osip.Invariant
import A500cg.Osip.TableUpdate
import A500cg.Osip.Rejected
import A500cg.Osip.Read
import A500cg.Osip.RoundTrip
import A500cg.Umip.Checksum
import A500cg.Umip.Partitions
import A500cg.Umip.Runs
import A500cg.Lib.Machine
import A500cg.Mmgr.Ack
import A500cg.Lib.ByteBuffer
import A500cg.Mmgr.Response
import A500cg.Mmgr.Parser
import A500cg.Mmgr.Reader
import A500cg.Mmgr.Delivery
import A500cg.Mmgr.Status
import A500cg.Lib.CString
import A500cg.Lib.KeyedVector
import A500cg.Lib.Flags
import A500cg.Mds.Listeners
import A500cg.Mds.Composer
import A500cg.Mds.VideoOn
import A500cg.Mds.ModeMessages
import A500cg.Mds.External
import A500cg.Mds.VideoClient
import A500cg.Lib.Scan
import A500cg.Lib.Files
import A500cg.Ifwi.Versions
import A500cg.Ifwi.Agreement
import A500cg.Lib.Tokens
import A500cg.Gpt.Table
import A500cg.Gpt.Rewrite
import A500cg.Boot.Pack
import A500cg.Boot.PackSpec
import A500cg.Lib.Parcel
import A500cg.Mds.HdmiControl
import A500cg.Lib.Distinct
import A500cg.Mds.DrmHdmi
import A500cg.Mds.TimingCache
import A500cg.Mds.Legacy
import A500cg.Mds.LegacyModes
import A500cg.Mds.LegacyPanel
import A500cg.Util.Interrupted
import A500cg.Osip.DataWrite
import A500cg.Osip.Lookup
import A500cg.Osip.Invalidation
import A500cg.Osip.NamedReaders
import A500cg.Osip.Fixup
import A500cg.Ifwi.Extraction
import A500cg.Ifwi.Crack
import A500cg.Ifwi.Gate
import A500cg.Lib.HexScan
import A500cg.Ifwi.CurrentRevision
import A500cg.FlashFdk.Capsule
import A500cg.Bootloader.Container
import A500cg.Bootloader.Flashing
import A500cg.FlashFdk.Bounds
import A500cg.Recovery.Patching
import A500cg.Updater.FlashIfwi
import A500cg.Lib.Lines
import A500cg.Util.CallProgram
import A500cg.Gpt.Numbers
import A500cg.Updater.RawFlash
import A500cg.Gpt.BootImage
import A500cg.Gpt.CmdAdd
import A500cg.Partition.NukeVolume
import A500cg.Boot.Unpack
import A500cg.Lib.JavaString
import A500cg.Mmgr.Requests
import A500cg.Stmd.Client
import A500cg.Lib.Latest
import A500cg.Mds.Playback
import A500cg.Mds.Scaling
import A500cg.Lib.Candidate
import A500cg.Mds.PreferredMode
import A500cg.Mds.SelectedTiming
import A500cg.Mds.ConnectorSearch
import A500cg.Lib.PatternSearch
import A500cg.Mds.EdidInspection
import A500cg.Mds.LegacyOverlay
import A500cg.Mds.LegacyTiming
import A500cg.Lib.TextBuffer
import A500cg.Util.HexDump
import A500cg.Tee.Tokens
import A500cg.Tee.Fru
import A500cg.Houdini.Invoke
import A500cg.Gpt.Crc32
import A500cg.Lib.Media
import A500cg.Lib.Packed
import A500cg.Gpt.Format
import A500cg.Gpt.Sanity
import A500cg.Gpt.Repair
import A500cg.Gpt.Label
import A500cg.Gpt.Drive
import A500cg.Gpt.Commands
import A500cg.Gpt.Disk
import A500cg.Lib.Refinement
import A500cg.Gpt.Restore
import A500cg.Gpt.Prioritize
import A500cg.Gpt.BootRecord
import A500cg.Gpt.Runs
import A500cg.Gpt.Details
import A500cg.Gpt.PowerCut
import A500cg.Gpt.Damage
