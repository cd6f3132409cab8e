import FlightSql.Lib.Dict
import FlightSql.Lib.Wire
import FlightSql.Lib.Run
import FlightSql.PreparedHandle
import FlightSql.PayloadGrammar
import FlightSql.Exceptions
import FlightSql.PyValue
import FlightSql.Arrow.Format
import FlightSql.Arrow.Table
import FlightSql.Arrow.PyArrow
import FlightSql.Arrow.Reference
import FlightSql.TemporalType
import FlightSql.Normalize
import FlightSql.TemporalParts
import FlightSql.SqlType
import FlightSql.Results
import FlightSql.Parameters
import FlightSql.Flight
import FlightSql.Reference
import FlightSql.PlaceholderOrder
import FlightSql.Lib.FixedPoint
import FlightSql.ExactIntegers
import FlightSql.TableMetadata
import FlightSql.IncludedSchemas
import FlightSql.Connection
import FlightSql.Cursor
import FlightSql.HandleTrace
import FlightSql.BindingTrace
import FlightSql.BindingErrors
import FlightSql.CursorFetch
import FlightSql.FailedExecute
import FlightSql.Endpoints
import FlightSql.Discovery
import FlightSql.CatalogTrace
import FlightSql.MetadataRuns
import FlightSql.CatalogDecision
import FlightSql.AdvisoryProbes
import FlightSql.KeyScope
import FlightSql.CompliantDiscovery
import FlightSql.Lib.FileTree
import FlightSql.Lib.Csv
import FlightSql.Provenance.Text
import FlightSql.Provenance.Record
import FlightSql.Provenance.Inventory
import FlightSql.Provenance.Url
import FlightSql.Provenance.Source
import FlightSql.Reflection
import FlightSql.ReflectionCoherence
import FlightSql.ReflectionConnection
import FlightSql.ReflectionRuns
import FlightSql.Lib.Like
import FlightSql.TableProbe
import FlightSql.Lib.Digits
import FlightSql.Lib.IsoTime
import FlightSql.Lib.SqlLiteral
import FlightSql.BoundValue
import FlightSql.LiteralProcessors
import FlightSql.LiteralRendering
import FlightSql.CallHeaders
import FlightSql.UrlOptions
import FlightSql.PrimaryKey
import FlightSql.NestedLists
import FlightSql.Objects
import FlightSql.ClosedObjects
import FlightSql.Provenance.Version
import FlightSql.Provenance.Digests
import FlightSql.ColumnDescriptions
import FlightSql.ResultGuard
import FlightSql.Provenance.RecordPaths
import FlightSql.Lib.LocalVersion
import FlightSql.BuildVersion
import FlightSql.Lib.Linearization
import FlightSql.DialectLoaders
import FlightSql.Provenance.Selection
import FlightSql.Provenance.DirectUrl
import FlightSql.Verification.Installation
import FlightSql.Verification.Command
import FlightSql.Lib.Interleaving
import FlightSql.Sessions.Scripts
import FlightSql.Sessions.Service
import FlightSql.Sessions.SharedServer
import FlightSql.Sessions.StatelessServer
import FlightSql.Sessions.OwnRequests
import FlightSql.Sessions.Isolation
import FlightSql.WheelRelease.StoredWheel
import FlightSql.WheelRelease.Pipeline
import FlightSql.WheelRelease.Publication
import FlightSql.WheelRelease.Guarantees
