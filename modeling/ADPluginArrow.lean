import ADPluginArrow.Foreign
import ADPluginArrow.Padding
import ADPluginArrow.Status
import ADPluginArrow.Compose
import ADPluginArrow.Restore
import ADPluginArrow.Bounds
import ADPluginArrow.Provenance
import ADPluginArrow.Recovery
