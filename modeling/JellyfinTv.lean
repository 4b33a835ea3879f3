import JellyfinTv.Auth.Refresh
import JellyfinTv.Auth.SessionConcurrency
import JellyfinTv.Auth.SignIn
import JellyfinTv.Auth.StoreFile
import JellyfinTv.Auth.StoredServers
import JellyfinTv.Background.Slideshow
import JellyfinTv.Channels.Sync
import JellyfinTv.External.Session
import JellyfinTv.Home.Rows
import JellyfinTv.Interaction.Locks
import JellyfinTv.Interaction.StillWatching
import JellyfinTv.Items.Refresh
import JellyfinTv.Launch.StartPositions
import JellyfinTv.LiveTv.EdgeMarks
import JellyfinTv.LiveTv.Paging
import JellyfinTv.LiveTv.Responses
import JellyfinTv.LiveTv.RowFocus
import JellyfinTv.LiveTv.ShiftedRows
import JellyfinTv.LiveTv.TimeLine
import JellyfinTv.Navigation.BackStack
import JellyfinTv.Navigation.SharedActions
import JellyfinTv.Photo.Presentation
import JellyfinTv.Playback.Alignment
import JellyfinTv.Playback.Elements
import JellyfinTv.Playback.MergedEvents
import JellyfinTv.Playback.PlaySessions
import JellyfinTv.Playback.Preloads
import JellyfinTv.Playback.Skipping
import JellyfinTv.Playback.TimedMessages
import JellyfinTv.Preferences.Display
import JellyfinTv.Preferences.Restart
import JellyfinTv.Preferences.Sessions
import JellyfinTv.Preferences.Upgrade
import JellyfinTv.Profile.Allowed
import JellyfinTv.Queue.Agenda
import JellyfinTv.Queue.Buffers
import JellyfinTv.Queue.Concatenation
import JellyfinTv.Queue.Failures
import JellyfinTv.Queue.InOrder
import JellyfinTv.Queue.Interleaving
import JellyfinTv.Queue.Launched
import JellyfinTv.Queue.Navigation
import JellyfinTv.Queue.Peek
import JellyfinTv.Queue.Removal
import JellyfinTv.Queue.Reset
import JellyfinTv.Queue.SessionPlaylist
import JellyfinTv.Queue.Shuffle
import JellyfinTv.Queue.Turns
import JellyfinTv.Screensaver.Downloads
import JellyfinTv.Screensaver.HostAddress
import JellyfinTv.Search.LatestQuery
import JellyfinTv.Startup.OneFlow
import JellyfinTv.Video.Handover
import JellyfinTv.Video.Reports
import JellyfinTv.Video.RestartRuns
import JellyfinTv.Video.SeekPositions
import JellyfinTv.Video.SegmentActions
import JellyfinTv.Video.SkipSums
import JellyfinTv.Video.SubtitleGroups
import JellyfinTv.Video.Subtitles
import JellyfinTv.Video.Tracks
import JellyfinTv.LiveTv.ShiftedRows
