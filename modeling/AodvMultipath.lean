import AodvMultipath.Time
import AodvMultipath.StdMap
import AodvMultipath.RoutingTableEntry
import AodvMultipath.Precursors
import AodvMultipath.MultipathRouteEntry
import AodvMultipath.RoutingTable
import AodvMultipath.Purge
import AodvMultipath.Unicast
import AodvMultipath.BleMetrics
import AodvMultipath.BlePathSelection
import AodvMultipath.BleMaintenance
import AodvMultipath.BleBounds
import AodvMultipath.QueryStability
import AodvMultipath.MultipathRefinement
import AodvMultipath.MultipathOps
import AodvMultipath.ResearchMetrics
import AodvMultipath.RouteLifetime
