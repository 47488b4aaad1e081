import KeylimeCommon.Basic
import KeylimeCommon.SymmKey
import KeylimeCommon.Uuid
import KeylimeCommon.UuidLayouts
import KeylimeCommon.Decimal
import KeylimeCommon.Config.Resolver
import KeylimeCommon.Config.TpmData
import KeylimeCommon.Config.Build
import KeylimeCommon.Config.Startup
import KeylimeCommon.Config.Overrides
import KeylimeCommon.Config.Restart
