import Mathlib.Logic.Basic

/-!
# The verge configuration

`config/verge.rs`: a record of optional fields, which also serves as a patch
of itself, and the update flags that `feat/config.rs` derives from a patch.
A field that the build for a platform does not have is never set there.
-/

namespace KyClash.Configuration

inductive Platform where
  | macos
  | windows
  | linux
  deriving DecidableEq, Repr

inductive VergeField where
  | appLogLevel | appLogMaxSize | appLogMaxCount | language | themeMode
  | trayEvent | envType | startPage | startupScript | trafficGraph
  | enableMemoryUsage | enableGroupIcon | pauseRenderTrafficStatsOnBlur
  | commonTrayIcon | trayIcon | menuIcon | menuOrder | noticePosition
  | collapseNavbar | sysproxyTrayIcon | tunTrayIcon | enableTunMode
  | enableAutoLaunch | enableSilentStart | enableSystemProxy | enableProxyGuard
  | enableBypassCheck | enableDnsSettings | useDefaultBypass | systemProxyBypass
  | proxyGuardDuration | proxyAutoConfig | pacFileContent | proxyHost
  | themeSetting | webUiList | clashCore | hotkeys | enableGlobalHotkey
  | homeCards | autoCloseConnection | autoCheckUpdate | defaultLatencyTest
  | defaultLatencyTimeout | enableAutoDelayDetection
  | autoDelayDetectionIntervalMinutes | enableBuiltinEnhanced
  | proxyLayoutColumn | testList | autoLogClean | enableAutoBackupSchedule
  | autoBackupIntervalHours | autoBackupOnChange | vergeRedirPort
  | vergeRedirEnabled | vergeTproxyPort | vergeTproxyEnabled | vergeMixedPort
  | vergeSocksPort | vergeSocksEnabled | vergePort | vergeHttpEnabled
  | webdavUrl | webdavUsername | webdavPassword | enableTraySpeed
  | trayProxyGroupsDisplayMode | trayInlineOutboundModes
  | enableAutoLightWeightMode | autoLightWeightMinutes
  | enableHoverJumpNavigator | hoverJumpNavigatorDelay
  | enableExternalController
  deriving DecidableEq, Repr

/-- A value that no function here looks into, as its text. -/
abbrev Document := String

def VergeField.Val : VergeField → Type
  | .appLogLevel | .language | .themeMode | .trayEvent | .envType | .startPage
  | .startupScript | .trayIcon | .menuIcon | .noticePosition
  | .systemProxyBypass | .pacFileContent | .proxyHost | .clashCore
  | .defaultLatencyTest | .webdavUrl | .webdavUsername | .webdavPassword
  | .trayProxyGroupsDisplayMode => String
  | .appLogMaxSize | .proxyGuardDuration | .autoDelayDetectionIntervalMinutes
  | .autoBackupIntervalHours | .autoLightWeightMinutes
  | .hoverJumpNavigatorDelay => UInt64
  | .appLogMaxCount => USize
  | .menuOrder | .webUiList | .hotkeys => List String
  | .themeSetting | .homeCards | .testList => Document
  | .defaultLatencyTimeout => Int16
  | .proxyLayoutColumn => UInt8
  | .autoLogClean => Int32
  | .vergeRedirPort | .vergeTproxyPort | .vergeMixedPort | .vergeSocksPort
  | .vergePort => UInt16
  | _ => Bool

/-- A record of optional fields, field by field. -/
def IVerge := (field : VergeField) → Option field.Val

namespace IVerge

/-- `IVerge::default` sets no field. -/
def default : IVerge := fun _ => none

def withField (verge : IVerge) (field : VergeField) (value : field.Val) :
    IVerge :=
  fun other =>
    if same : other = field then same ▸ some value else verge other

/-- The fields that the patch sets replace those of the configuration. -/
def patchConfig (patch verge : IVerge) : IVerge :=
  fun field =>
    match patch field with
    | some value => some value
    | none => verge field

def tunMode (verge : IVerge) : Option Bool := verge .enableTunMode

def sets (patch : IVerge) (field : VergeField) : Bool :=
  (patch field).isSome

end IVerge

abbrev UpdateFlags := BitVec 16

namespace UpdateFlags

def restartCore : UpdateFlags := 1 <<< 0
def clashConfig : UpdateFlags := 1 <<< 1
def vergeConfig : UpdateFlags := 1 <<< 2
def launch : UpdateFlags := 1 <<< 3
def sysProxy : UpdateFlags := 1 <<< 4
def systrayIcon : UpdateFlags := 1 <<< 5
def hotkey : UpdateFlags := 1 <<< 6
def systrayMenu : UpdateFlags := 1 <<< 7
def systrayTooltip : UpdateFlags := 1 <<< 8
def systrayClickBehavior : UpdateFlags := 1 <<< 9
def lightWeight : UpdateFlags := 1 <<< 10
def language : UpdateFlags := 1 <<< 11
def logLevel : UpdateFlags := 1 <<< 12
def logFile : UpdateFlags := 1 <<< 13

def groupSysTray : UpdateFlags := systrayMenu ||| systrayTooltip ||| systrayIcon

def contains (flags flag : UpdateFlags) : Bool := flags &&& flag == flag

/-- The flag, if it is wanted. -/
def only (wanted : Bool) (flag : UpdateFlags) : UpdateFlags :=
  if wanted then flag else 0

end UpdateFlags

def restartCoreNeeded (platform : Platform) (patch : IVerge) : Bool :=
  patch.sets .vergeSocksEnabled || patch.sets .vergeHttpEnabled ||
    patch.sets .vergeSocksPort || patch.sets .vergePort ||
    patch.sets .vergeMixedPort || patch.sets .enableExternalController ||
    (platform ≠ .windows &&
      (patch.sets .vergeRedirEnabled || patch.sets .vergeRedirPort)) ||
    (platform = .linux &&
      (patch.sets .vergeTproxyEnabled || patch.sets .vergeTproxyPort ||
        patch.tunMode = some true))

open UpdateFlags in
def determineUpdateFlags (platform : Platform) (patch : IVerge) : UpdateFlags :=
  only (restartCoreNeeded platform patch) restartCore ||| only
    (patch.sets .enableTunMode) (clashConfig ||| groupSysTray) ||| only
    (patch.sets .enableGlobalHotkey || patch.sets .homeCards) vergeConfig |||
    only (patch.sets .enableAutoLaunch) launch ||| only
    (patch.sets .enableSystemProxy) (sysProxy ||| groupSysTray) ||| only
    (patch.sets .systemProxyBypass || patch.sets .pacFileContent ||
      patch.sets .proxyAutoConfig || patch.sets .enableProxyGuard ||
      patch.sets .proxyGuardDuration)
    sysProxy ||| only (patch.sets .language)
    (UpdateFlags.language ||| systrayMenu ||| systrayTooltip) ||| only
    (patch.sets .commonTrayIcon || patch.sets .sysproxyTrayIcon ||
      patch.sets .tunTrayIcon ||
      (platform = .macos &&
        (patch.sets .trayIcon || patch.sets .enableTraySpeed)))
    systrayIcon ||| only (patch.sets .hotkeys) (hotkey ||| systrayMenu) ||| only
    (patch.sets .trayEvent) systrayClickBehavior ||| only
    (patch.sets .enableAutoLightWeightMode) lightWeight ||| only
    (patch.sets .trayProxyGroupsDisplayMode) systrayMenu ||| only
    (patch.sets .appLogLevel) logLevel ||| only
    (patch.sets .appLogMaxSize || patch.sets .appLogMaxCount) logFile ||| only
    (patch.sets .trayInlineOutboundModes) systrayMenu

end KyClash.Configuration
