import SrcLink.Library.StepSystem
import SrcLink.Network.RequestSequencer
import SrcLink.Network.SequencerExclusion
import SrcLink.Network.SequencerOrder
import SrcLink.Audio.AudioCapture
import SrcLink.Audio.AudioSource
import SrcLink.Audio.ChunkEncoding
import SrcLink.Audio.ChunkFraming
import SrcLink.Audio.FramingRuns
import SrcLink.Audio.OutputReblocking
import SrcLink.Outputs.PipelineStructure
import SrcLink.Outputs.ShowingBalance
import SrcLink.Client.CacheMaps
import SrcLink.Client.CacheValidity
import SrcLink.Client.Logout
import SrcLink.Client.Subscriptions
import SrcLink.Client.Termination
import SrcLink.Outputs.GuestCounters
import SrcLink.Sources.DownlinkDeletion
import SrcLink.Sources.ListeningPorts
import SrcLink.Sources.DownlinkRevisions
import SrcLink.Sources.DecoderSettings
import SrcLink.Sources.SourceLifetime
import SrcLink.Client.Announcements
import SrcLink.Client.ReconnectFlag
import SrcLink.Portal.BatchResponses
import SrcLink.Portal.PortalSockets
import SrcLink.Outputs.InterlockStop
import SrcLink.Outputs.StartPostcondition
import SrcLink.Outputs.OutputActivation
import SrcLink.Outputs.OutputDialog
import SrcLink.Client.TokenRefresh
import SrcLink.Client.PrivateIp
import SrcLink.Outputs.BestFilename
import SrcLink.Outputs.ConnectionWidgets
import SrcLink.Outputs.EgressSettings
import SrcLink.Outputs.MatchingEndpoints
import SrcLink.Outputs.RecordingSettings
import SrcLink.Portal.EventFilter
import SrcLink.Sources.StreamIds
import SrcLink.Outputs.Statistics
import SrcLink.Outputs.Convergence
import SrcLink.Network.SequencerLiveness
import SrcLink.Outputs.OutputHandles
import SrcLink.Docks.WsPortalDock
import SrcLink.Docks.EgressLinkDock
import SrcLink.Client.SettingsDialog
import SrcLink.Sources.SettingsPropagation
import SrcLink.Outputs.SavedSettings
import SrcLink.Docks.VideoSource
import SrcLink.Client.SessionLiveness
import SrcLink.Sources.PlayedConnections
